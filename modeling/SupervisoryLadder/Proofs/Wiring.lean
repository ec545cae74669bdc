import SupervisoryLadder.Proofs.Passage

/-!
# How the elements of a rung are connected

Behind its header a rung has contacts, each fed by the left rail or by a contact before it, and then
coils and jumps that are fed by its contacts. So whatever an element lists as an input has a smaller
id, and it is the left rail or a contact with nothing but the same rung in between. Rungs keep this
wherever they are laid out, and a generated program has nothing but rungs and labels between its
rails.
-/

namespace SupervisoryLadder.Ladder

namespace Part

variable {ρ σ : Type}

/-- True for a contact. -/
def isContact : Part ρ → Bool
  | contact .. => true
  | _ => false

/-- True for what acts at the end of a rung: a coil or a jump. -/
def acts : Part ρ → Bool
  | coil .. | jump .. => true
  | _ => false

/-- True for what begins a section or a rung. -/
def opens : Part ρ → Bool
  | label _ | comment | networkTitle => true
  | _ => false

@[simp]
theorem inputs_map (rename : ρ → σ) (part : Part ρ) :
    (part.map rename).inputs = part.inputs.map rename := by
  cases part <;> rfl

@[simp]
theorem isContact_map (rename : ρ → σ) (part : Part ρ) :
    (part.map rename).isContact = part.isContact := by
  cases part <;> rfl

@[simp]
theorem opens_map (rename : ρ → σ) (part : Part ρ) : (part.map rename).opens = part.opens := by
  cases part <;> rfl

theorem opens_of_isContact {part : Part ρ} (contact : part.isContact = true) :
    part.opens = false := by
  cases part <;> first | rfl | cases contact

theorem opens_of_acts {part : Part ρ} (acting : part.acts = true) : part.opens = false := by
  cases part <;> first | rfl | cases acting

end Part

/-! ## Rungs -/

namespace Rung

/-- A rung in order: the header, contacts that are fed by the rail or by contacts before them, and
what acts, fed by the contacts. Offsets count from the header on. -/
structure Layered (rung : Rung) (contacts actions : Rung) : Prop where
  shape : rung = header ++ (contacts ++ actions)
  contact : ∀ part ∈ contacts, part.isContact = true
  chained : ∀ before part after, contacts = before ++ part :: after → ∀ feed ∈ part.inputs,
    feed = .rail ∨ ∃ offset < before.length, feed = .member (2 + offset)
  action : ∀ part ∈ actions, part.acts = true
  driven : ∀ part ∈ actions, ∀ feed ∈ part.inputs,
    ∃ offset < contacts.length, feed = .member (2 + offset)

/-- A rung in order has no rail in it. -/
theorem Layered.unrailed {rung contacts actions : Rung} (layered : rung.Layered contacts actions)
    {part : Part Feed} (member : part ∈ rung) : part ≠ .leftRail ∧ part ≠ .rightRail := by
  rw [layered.shape] at member
  rcases List.mem_append.mp member with headed | behind
  · simp only [header, List.mem_cons, List.not_mem_nil, or_false] at headed
    rcases headed with rfl | rfl <;> simp
  · rcases List.mem_append.mp behind with listed | listed
    · have contact := layered.contact part listed
      constructor <;> rintro rfl <;> cases contact
    · have action := layered.action part listed
      constructor <;> rintro rfl <;> cases action

/-- A contact that is fed by the rail alone heads a chain of contacts that it feeds. -/
theorem chained_cons {first : Part Feed} (railed : first.inputs = [.rail]) {others : Rung}
    (fed : ∀ part ∈ others, part.inputs = [.member 2]) {before after : Rung} {part : Part Feed}
    (split : first :: others = before ++ part :: after) {feed : Feed}
    (listed : feed ∈ part.inputs) :
    feed = .rail ∨ ∃ offset < before.length, feed = .member (2 + offset) := by
  cases before with
  | nil =>
    obtain ⟨rfl, -⟩ := List.cons.inj split
    rw [railed, List.mem_singleton] at listed
    exact .inl listed
  | cons head rest =>
    obtain ⟨-, tail⟩ := List.cons.inj split
    have member : part ∈ others := by simp [tail]
    rw [fed part member, List.mem_singleton] at listed
    exact .inr ⟨0, by simp, listed⟩

/-- Members are listed by their offsets. -/
theorem mem_members {first count : Nat} {feed : Feed} :
    feed ∈ members first count ↔ ∃ offset < count, feed = .member (first + offset) := by
  simp only [members, List.mem_map, List.mem_range'_1]
  constructor
  · rintro ⟨place, bounds, rfl⟩
    exact ⟨place - first, by omega, by congr 1; omega⟩
  · rintro ⟨offset, bound, rfl⟩
    exact ⟨first + offset, by omega, rfl⟩

theorem supervisorMove_layered (index : Nat) (origin destination : State) (events : List Event) :
    Layered (supervisorMove index origin destination events)
      (contact (.supervisorState index origin) [.rail] ::
        events.map fun event => contact (.occurrence event) [.member 2])
      [coil (.supervisorState index destination) .set (members 3 events.length),
        coil (.supervisorState index origin) .reset (members 3 events.length)] where
  shape := by simp [supervisorMove]
  contact := by simp [contact, Part.isContact]
  chained _ _ _ split _ listed :=
    chained_cons rfl (by simp [contact, Part.inputs]) split listed
  action := by simp [coil, Part.acts]
  driven := by
    intro part member feed listed
    have guarded : feed ∈ members 3 events.length := by
      simp only [List.mem_cons, List.not_mem_nil, or_false] at member
      rcases member with rfl | rfl <;> exact listed
    obtain ⟨offset, bound, rfl⟩ := mem_members.mp guarded
    exact ⟨offset + 1, by simpa using bound, by congr 1; omega⟩

theorem disablementFlag_layered (event : Event) (states : List String) :
    Layered (disablementFlag event states)
      (states.map fun state => Part.contact state false [.rail])
      [coil (.disablement event) .direct (members 2 states.length)] where
  shape := by simp [disablementFlag]
  contact := by simp [Part.isContact]
  chained before part after split feed listed := by
    have member : part ∈ states.map fun state => Part.contact state false [Feed.rail] := by
      simp [split]
    obtain ⟨state, -, rfl⟩ := List.mem_map.mp member
    exact .inl (List.mem_singleton.mp listed)
  action := by simp [coil, Part.acts]
  driven := by
    intro part member feed listed
    rw [List.mem_singleton] at member
    subst member
    simpa using mem_members.mp listed

theorem plantMove_layered (plant : String) (transition : Transition) :
    Layered (plantMove plant transition)
      [contact (.plantState plant transition.origin) [.rail],
        if transition.trigger.isControllable then
          negatedContact (.disablement transition.trigger) [.member 2]
        else contact (.occurrence transition.trigger) [.member 2]]
      ((if transition.trigger.isControllable then
          [coil (.petition transition.trigger) .set [.member 3]] else []) ++
        [coil (.occurrence transition.trigger) .set [.member 3],
          coil (.plantState plant transition.destination) .set [.member 3],
          coil (.plantState plant transition.origin) .reset [.member 3],
          .jump .procedures [.member 3]]) := by
  by_cases commanded : transition.trigger.isControllable = true <;>
    simp only [plantMove, commanded, if_true, Bool.false_eq_true, if_false]
  all_goals exact {
    shape := rfl
    contact := by simp [contact, negatedContact, Part.isContact]
    chained := fun _ _ _ split _ listed =>
      chained_cons rfl (by simp [contact, negatedContact, Part.inputs]) split listed
    action := by simp [coil, Part.acts]
    driven := fun part member feed listed => ⟨1, by simp, by
      simp only [List.cons_append, List.nil_append, List.mem_cons, List.not_mem_nil,
        or_false] at member
      rcases member with rfl | rfl | rfl | rfl | rfl <;> exact List.mem_singleton.mp listed⟩ }

theorem start_layered (signals : List Signal) :
    Layered (start signals) [contact .start [.rail]]
      (signals.map fun signal => coil signal .set [.member 2]) where
  shape := by simp [start]
  contact := by simp [contact, Part.isContact]
  chained _ _ _ split _ listed := chained_cons rfl (by simp) split listed
  action := by simp [coil, Part.acts]
  driven := by
    intro part member feed listed
    obtain ⟨signal, -, rfl⟩ := List.mem_map.mp member
    exact ⟨0, by simp, List.mem_singleton.mp listed⟩

end Rung

/-- Every rung of a generated program is in order. -/
theorem sectionRungs_layered (system : ControlSystem) (place : Section) {rung : Rung}
    (member : rung ∈ sectionRungs system place) :
    ∃ contacts actions, rung.Layered contacts actions := by
  cases rungOf_mem member with
  | move => exact ⟨_, _, Rung.supervisorMove_layered _ _ _ _⟩
  | flag => exact ⟨_, _, Rung.disablementFlag_layered _ _⟩
  | plant => exact ⟨_, _, Rung.plantMove_layered _ _⟩
  | start => exact ⟨_, _, Rung.start_layered _⟩

/-- Only the rungs of the plants have jumps, and these aim at the procedures. -/
theorem sectionRungs_jump (system : ControlSystem) (place : Section) {rung : Rung}
    (member : rung ∈ sectionRungs system place) {target : Section} {inputs : List Feed}
    (jump : Part.jump target inputs ∈ rung) : place = .plants ∧ target = .procedures := by
  cases rungOf_mem member with
  | move => simp [Rung.supervisorMove, Rung.header, Rung.contact, Rung.coil] at jump
  | flag => simp [Rung.disablementFlag, Rung.header, Rung.coil] at jump
  | @plant plant transition listed moves =>
    refine ⟨rfl, ?_⟩
    by_cases commanded : transition.trigger.isControllable = true <;>
      simp [Rung.plantMove, Rung.header, Rung.contact, Rung.negatedContact, Rung.coil,
        commanded] at jump <;> exact jump.1
  | start => simp [Rung.start, Rung.header, Rung.contact, Rung.coil] at jump

/-! ## Elements -/

/-- Behind these elements the input can be used: it is the left rail, or the id of a contact behind
which no label and no header of a rung has come. -/
def Feeds (front : List Element) (input : Nat) : Prop :=
  input = leftRailId ∨ ∃ before source between, front = before ++ source :: between ∧
    source.id = input ∧ source.part.isContact = true ∧
      ∀ element ∈ between, element.part.opens = false

/-- Behind the elements in front, each further element lists only ids that are smaller than its own
and that can be used where it stands. -/
def Wired (front elements : List Element) : Prop :=
  ∀ before element after, elements = before ++ element :: after → ∀ input ∈ element.inputs,
    input < element.id ∧ Feeds (front ++ before) input

/-- What can be used can be used as long as the rung goes on. -/
theorem Feeds.append {front block : List Element} {input : Nat} (feeds : Feeds front input)
    (goesOn : ∀ element ∈ block, element.part.opens = false) : Feeds (front ++ block) input := by
  rcases feeds with rail | ⟨before, source, between, rfl, id, contact, same⟩
  · exact .inl rail
  · refine .inr ⟨before, source, between ++ block, by simp, id, contact, ?_⟩
    intro element member
    rcases List.mem_append.mp member with near | far
    · exact same element near
    · exact goesOn element far

theorem wired_nil (front : List Element) : Wired front [] := by
  intro before element after split
  simp at split

/-- An element without inputs can stand anywhere. -/
theorem wired_cons {front rest : List Element} {element : Element} (free : element.inputs = [])
    (wired : Wired (front ++ [element]) rest) : Wired front (element :: rest) := by
  intro before other after split input listed
  cases before with
  | nil =>
    obtain ⟨rfl, -⟩ := List.cons.inj split
    rw [free] at listed
    cases listed
  | cons head tail =>
    obtain ⟨rfl, rfl⟩ := List.cons.inj split
    simpa using wired tail other after rfl input listed

theorem wired_append {front first second : List Element} (firstWired : Wired front first)
    (secondWired : Wired (front ++ first) second) : Wired front (first ++ second) := by
  intro before element after split input listed
  rcases List.append_eq_append_iff.mp split with ⟨more, rfl, rest⟩ | ⟨more, rest, tail⟩
  · rw [← List.append_assoc]
    exact secondWired more element after rest input listed
  · cases more with
    | nil =>
      rw [List.append_nil] at rest
      subst rest
      simpa using secondWired [] element after tail.symm input listed
    | cons head others =>
      obtain ⟨rfl, -⟩ := List.cons.inj tail
      exact firstWired before _ others rest input listed

namespace Rung

/-- The element at a place among placed members is the member at that place. -/
theorem placeFrom_split {base offset : Nat} {rung : Rung} {before after : List Element}
    {element : Element} (split : placeFrom base offset rung = before ++ element :: after) :
    ∃ front part back, rung = front ++ part :: back ∧ before = placeFrom base offset front ∧
      element = ⟨base + offset + front.length, part.map (Feed.locate base)⟩ := by
  induction rung generalizing offset before with
  | nil => simp at split
  | cons first rest inductionHypothesis =>
    rw [placeFrom_cons] at split
    cases before with
    | nil =>
      obtain ⟨rfl, -⟩ := List.cons.inj split
      exact ⟨[], first, rest, rfl, rfl, rfl⟩
    | cons head others =>
      obtain ⟨rfl, tail⟩ := List.cons.inj split
      obtain ⟨front, part, back, rfl, rfl, rfl⟩ := inductionHypothesis tail
      refine ⟨first :: front, part, back, rfl, rfl, ?_⟩
      rw [List.length_cons]
      congr 1
      omega

/-- Placed members are what they were before. -/
theorem opens_placeFrom {base offset : Nat} {rung : Rung}
    (goesOn : ∀ part ∈ rung, part.opens = false) :
    ∀ element ∈ placeFrom base offset rung, element.part.opens = false := by
  intro element member
  obtain ⟨⟨part, id⟩, indexed, rfl⟩ := List.mem_map.mp member
  rw [Part.opens_map]
  exact goesOn part (List.fst_mem_of_mem_zipIdx indexed)

/-- Directly behind placed contacts each of them can be used. -/
theorem feeds_contact {contacts : Rung} (contact : ∀ part ∈ contacts, part.isContact = true)
    {offset : Nat} (bound : offset < contacts.length) (front : List Element) (base first : Nat) :
    Feeds (front ++ placeFrom base first contacts) (base + (first + offset)) := by
  have split :
      contacts = contacts.take offset ++ contacts[offset] :: contacts.drop (offset + 1) := by
    rw [List.getElem_cons_drop, List.take_append_drop]
  have length : (contacts.take offset).length = offset := List.length_take_of_le (by omega)
  rw [split, placeFrom_append, placeFrom_cons, length]
  refine .inr ⟨front ++ placeFrom base first (contacts.take offset),
    ⟨base + (first + offset), contacts[offset].map (Feed.locate base)⟩,
    placeFrom base (first + offset + 1) (contacts.drop (offset + 1)), by simp, rfl, ?_, ?_⟩
  · rw [Part.isContact_map]
    exact contact _ (List.getElem_mem bound)
  · exact opens_placeFrom fun part member =>
      Part.opens_of_isContact (contact part (List.mem_of_mem_drop member))

/-- A rung in order is connected in order, wherever it is placed behind the left rail. -/
theorem Layered.wired {rung contacts actions : Rung} (layered : rung.Layered contacts actions)
    {base : Nat} (behind : leftRailId < base) (front : List Element) :
    Wired front (place base rung) := by
  have headed : Wired front (placeFrom base 0 header) :=
    wired_cons rfl (wired_cons rfl (wired_nil _))
  rw [place_eq_placeFrom, layered.shape, placeFrom_append, placeFrom_append, length_header,
    Nat.zero_add]
  refine wired_append headed (wired_append ?_ ?_)
  · intro before element after split input listed
    obtain ⟨chain, part, rest, contactSplit, rfl, rfl⟩ := placeFrom_split split
    rw [Element.inputs, Part.inputs_map] at listed
    obtain ⟨feed, used, rfl⟩ := List.mem_map.mp listed
    have earlier : ∀ other ∈ chain, other.isContact = true := fun other member =>
      layered.contact other (by simp [contactSplit, member])
    rcases layered.chained chain part rest contactSplit feed used with rfl | ⟨offset, bound, rfl⟩
    · refine ⟨?_, .inl rfl⟩
      simp only [Feed.locate]
      omega
    · exact ⟨by simp only [Feed.locate]; omega,
        feeds_contact earlier bound _ base 2⟩
  · intro before element after split input listed
    obtain ⟨others, part, rest, actionSplit, rfl, rfl⟩ := placeFrom_split split
    rw [Element.inputs, Part.inputs_map] at listed
    obtain ⟨feed, used, rfl⟩ := List.mem_map.mp listed
    have present : ∀ other ∈ others, other ∈ actions := fun other member => by
      simp [actionSplit, member]
    obtain ⟨offset, bound, rfl⟩ := layered.driven part (by simp [actionSplit]) feed used
    refine ⟨by simp only [Feed.locate]; omega, ?_⟩
    exact (feeds_contact layered.contact bound _ base 2).append (opens_placeFrom fun other member =>
      Part.opens_of_acts (layered.action other (present other member)))

/-- Rungs in order that are laid out one after another are connected in order. -/
theorem layout_wired {rungs : List Rung}
    (layered : ∀ rung ∈ rungs, ∃ contacts actions, rung.Layered contacts actions) {base : Nat}
    (behind : leftRailId < base) (front : List Element) : Wired front (layout base rungs) := by
  induction rungs generalizing base front with
  | nil => exact wired_nil front
  | cons rung rest inductionHypothesis =>
    obtain ⟨contacts, actions, first⟩ := layered rung List.mem_cons_self
    exact wired_append (first.wired behind front)
      (inductionHypothesis (fun other member => layered other (List.mem_cons_of_mem _ member))
        (by omega) _)

/-- Rungs that are laid out have consecutive ids from the base on. -/
theorem ids_layout (base : Nat) (rungs : List Rung) :
    (layout base rungs).map Element.id = List.range' base (size rungs) := by
  induction rungs generalizing base with
  | nil => rfl
  | cons rung rest inductionHypothesis =>
    have first : (place base rung).map Element.id = List.range' base rung.length := by
      rw [place, List.map_map]
      exact List.zipIdx_map_snd base rung
    rw [layout, List.map_append, first, inductionHypothesis, size_cons, List.range'_append_1]

end Rung

end SupervisoryLadder.Ladder
