namespace ImageStages

/-! Texts as sequences of code points.

JSON can spell one half of a surrogate pair without the other.  Such a half is a code
point of a text but no character: UTF-8 has no octets for it. -/

inductive CodePoint where
  | char (c : Char)
  | surrogate (offset : Fin 0x800)
deriving DecidableEq

namespace CodePoint

instance : Coe Char CodePoint := ⟨.char⟩

def toNat : CodePoint → Nat
  | .char c => c.toNat
  | .surrogate offset => 0xd800 + offset

@[simp] theorem toNat_char (c : Char) : (char c).toNat = c.toNat := rfl

/-- The code point of a number that is one. -/
def ofNat (code : Nat) : CodePoint :=
  if surrogates : 0xd800 ≤ code ∧ code < 0xe000 then .surrogate ⟨code - 0xd800, by omega⟩
  else .char (Char.ofNat code)

theorem toNat_lt (c : CodePoint) : c.toNat < 0x110000 := by
  cases c with
  | char c =>
      have valid : c.toNat < 0xd800 ∨ 0xdfff < c.toNat ∧ c.toNat < 0x110000 := c.valid
      rw [toNat_char]
      omega
  | surrogate offset =>
      simp only [toNat]
      omega

@[simp] theorem ofNat_toNat (c : CodePoint) : ofNat c.toNat = c := by
  cases c with
  | char c =>
      have valid : c.toNat < 0xd800 ∨ 0xdfff < c.toNat ∧ c.toNat < 0x110000 := c.valid
      rw [toNat_char, ofNat, dif_neg (by omega), Char.ofNat_toNat]
  | surrogate offset =>
      have surrogates : 0xd800 ≤ 0xd800 + offset.val ∧ 0xd800 + offset.val < 0xe000 := by omega
      rw [toNat, ofNat, dif_pos surrogates]
      simp

def char? : CodePoint → Option Char
  | .char c => some c
  | .surrogate _ => none

def isSurrogate : CodePoint → Bool
  | .char _ => false
  | .surrogate _ => true

def isDigit (c : CodePoint) : Bool :=
  c.char?.any Char.isDigit

theorem isDigit_iff {c : CodePoint} :
    c.isDigit = true ↔ ∃ digit, c = .char digit ∧ digit.isDigit = true := by
  cases c <;> simp [isDigit, char?]

/-- Code points are in the order of their numbers. -/
instance : LT CodePoint := ⟨fun left right => left.toNat < right.toNat⟩

instance (left right : CodePoint) : Decidable (left < right) :=
  inferInstanceAs (Decidable (left.toNat < right.toNat))

end CodePoint

abbrev Text := List CodePoint

namespace Text

def ofChars (s : List Char) : Text :=
  s.map .char

def ofString (s : String) : Text :=
  ofChars s.toList

instance : Coe String Text := ⟨ofString⟩

/-- The characters of a text, without its surrogates. -/
def chars (s : Text) : List Char :=
  s.filterMap CodePoint.char?

def isEncodable (s : Text) : Bool :=
  s.all (!·.isSurrogate)

/-- Sets of code points are given by ranges, both ends included. -/
def inRanges (ranges : List (Nat × Nat)) (code : Nat) : Bool :=
  ranges.any fun range => range.1 ≤ code && code ≤ range.2

def occursIn (word : Text) : Text → Bool
  | [] => word.isEmpty
  | c :: rest => word.isPrefixOf (c :: rest) || occursIn word rest

/-- Removes every occurrence of a word, from left to right.  `skip` counts the
characters of an occurrence that are still to be dropped. -/
def removeWord (word : Text) (skip : Nat) : Text → Text
  | [] => []
  | c :: rest =>
      match skip with
      | skip + 1 => removeWord word skip rest
      | 0 =>
          if !word.isEmpty && word.isPrefixOf (c :: rest) then
            removeWord word (word.length - 1) rest
          else c :: removeWord word 0 rest

variable {a b : String}

@[simp] theorem ofChars_nil : ofChars [] = [] := rfl

@[simp] theorem ofChars_cons (c : Char) (rest : List Char) :
    ofChars (c :: rest) = .char c :: ofChars rest := rfl

@[simp] theorem ofChars_append (s t : List Char) : ofChars (s ++ t) = ofChars s ++ ofChars t :=
  List.map_append

@[simp] theorem length_ofChars (s : List Char) : (ofChars s).length = s.length :=
  List.length_map _

@[simp] theorem chars_append (s t : Text) : (s ++ t).chars = s.chars ++ t.chars :=
  List.filterMap_append

theorem chars_ofChars (s : List Char) : (ofChars s).chars = s := by
  rw [chars, ofChars, List.filterMap_map]
  exact List.filterMap_some

/-- A text that can be encoded is one of characters. -/
theorem ofChars_chars {s : Text} (encodable : s.isEncodable = true) : ofChars s.chars = s := by
  induction s with
  | nil => rfl
  | cons c rest ih =>
      rw [isEncodable, List.all_cons, Bool.and_eq_true] at encodable
      cases c with
      | char c => exact congrArg (.char c :: ·) (ih encodable.2)
      | surrogate offset => exact absurd encodable.1 Bool.false_ne_true

@[simp] theorem ofChars_inj {s t : List Char} : ofChars s = ofChars t ↔ s = t :=
  ⟨fun same => by rw [← chars_ofChars s, same, chars_ofChars], congrArg ofChars⟩

@[simp] theorem ofString_empty : ofString "" = [] := rfl

theorem ofString_append (a b : String) :
    ofString (a ++ b) = ofString a ++ ofString b := by
  rw [ofString, String.toList_append, ofChars_append]
  rfl

@[simp] theorem ofString_inj : ofString a = ofString b ↔ a = b :=
  ofChars_inj.trans String.toList_inj

@[simp] theorem ofString_beq (a b : String) : (ofString a == ofString b) = (a == b) := by
  rw [Bool.eq_iff_iff, beq_iff_eq, beq_iff_eq, ofString_inj]

@[simp] theorem ofString_ofList (s : List Char) : ofString (String.ofList s) = ofChars s := by
  rw [ofString, String.toList_ofList]

end Text

end ImageStages
