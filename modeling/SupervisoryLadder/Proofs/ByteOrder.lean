import SupervisoryLadder.NameSet

/-!
# The order of names is the order of their bytes

Names compare by code point. The UTF-8 encodings of two different characters differ at some byte
before either of them ends, and there the smaller character has the smaller byte. So comparing
names by code point and comparing their encodings byte by byte give the same order.
-/

namespace SupervisoryLadder.ByteOrder

/-- The UTF-8 encoding of a name. -/
def bytes (name : String) : List UInt8 := name.toUTF8.data.toList

/-- A name's bytes are the encodings of its characters in order. -/
theorem bytes_eq_flatMap (name : String) :
    bytes name = name.toList.flatMap String.utf8EncodeChar := by
  have encoded : name.toUTF8 = name.toList.utf8Encode := by
    rw [String.toUTF8_eq_toByteArray, ← String.toByteArray_ofList, String.ofList_toList]
  rw [bytes, encoded, List.utf8Encode, List.data_toByteArray]

/-- At the first place where the lists differ both have a byte, and the left one is smaller. Unlike
the order of lists this says nothing about a list that is a beginning of the other, so it survives
whatever is appended. -/
inductive FirstLess : List UInt8 → List UInt8 → Prop
  | head {first second : UInt8} (less : first < second) (left right : List UInt8) :
      FirstLess (first :: left) (second :: right)
  | tail (shared : UInt8) {left right : List UInt8} (later : FirstLess left right) :
      FirstLess (shared :: left) (shared :: right)

theorem FirstLess.append_lt {left right : List UInt8} (less : FirstLess left right)
    (leftRest rightRest : List UInt8) : left ++ leftRest < right ++ rightRest := by
  induction less with
  | head less left right => exact List.Lex.rel less
  | tail shared later inductionHypothesis => exact List.Lex.cons inductionHypothesis

/-- Two lists of bytes that are given by their numbers compare at the first number or, if that is
the same, behind it. -/
theorem FirstLess.ofNat {first second : Nat} {left right : List UInt8} (bound : second < 256)
    (order : first ≤ second) (later : first = second → FirstLess left right) :
    FirstLess (UInt8.ofNat first :: left) (UInt8.ofNat second :: right) := by
  rcases Nat.lt_or_eq_of_le order with less | rfl
  · apply FirstLess.head
    rw [UInt8.lt_iff_toNat_lt, UInt8.toNat_ofNat_of_lt' (Nat.lt_trans less bound),
      UInt8.toNat_ofNat_of_lt' bound]
    exact less
  · exact FirstLess.tail _ (later rfl)

/-- The encoding of a smaller character is smaller at the first byte that differs.

Encodings of different lengths differ in their first byte, whose range grows with the length. Those
of one length hold the digits of the code point to the base 64, the most significant first. -/
theorem firstLess_utf8EncodeChar {first second : Char} (before : first < second) :
    FirstLess (String.utf8EncodeChar first) (String.utf8EncodeChar second) := by
  have less : first.val.toNat < second.val.toNat := before
  have bound : second.val.toNat < 1114112 := by
    rcases second.valid with low | high <;> omega
  unfold String.utf8EncodeChar
  generalize first.val.toNat = smaller at *
  generalize second.val.toNat = larger at *
  simp only
  repeat' split
  all_goals repeat first | omega | refine FirstLess.ofNat (by omega) (by omega) fun same => ?_

/-- Names that are in order have bytes in order. -/
theorem flatMap_lt {left right : List Char} (before : left < right) :
    left.flatMap String.utf8EncodeChar < right.flatMap String.utf8EncodeChar := by
  induction before with
  | @nil character rest =>
    obtain ⟨byte, others, encoded⟩ :
        ∃ byte others, String.utf8EncodeChar character = byte :: others :=
      List.exists_cons_of_ne_nil String.utf8EncodeChar_ne_nil
    rw [List.flatMap_nil, List.flatMap_cons, encoded]
    exact List.nil_lt_cons _ _
  | rel less => exact (firstLess_utf8EncodeChar less).append_lt _ _
  | cons later inductionHypothesis =>
    rw [List.flatMap_cons, List.flatMap_cons]
    exact List.append_left_lt inductionHypothesis

/-- A name comes before another exactly when its bytes do. -/
theorem lt_iff_bytes_lt {left right : String} : left < right ↔ bytes left < bytes right := by
  have forward {first second : String} (before : first < second) : bytes first < bytes second := by
    rw [bytes_eq_flatMap, bytes_eq_flatMap]
    exact flatMap_lt before
  refine ⟨forward, fun less => ?_⟩
  rcases Decidable.em (left < right) with before | notBefore
  · exact before
  · rcases Decidable.em (left = right) with rfl | different
    · exact absurd less (List.lt_irrefl _)
    · exact absurd less (List.lt_asymm (forward (name_lt_of_not_lt notBefore different)))

/-- Names that ascend by code point ascend by bytes. -/
theorem ascending_bytes {names : List String} (ascending : names.Pairwise (· < ·)) :
    (names.map bytes).Pairwise (· < ·) := by
  rw [List.pairwise_map]
  apply ascending.imp
  intro left right before
  exact lt_iff_bytes_lt.mp before

end SupervisoryLadder.ByteOrder
