import ImageStages.Failure

namespace ImageStages.Text

/-! Contents of text files: UTF-8 and line breaks.

A lead octet announces one to three continuation octets and, for the leads at the
edges of the code space, a narrower range for the first of them.  Decoding stops
at the first octet that rules a text out, and tells how many octets belong to the
unfinished character. -/

/-- What a lead octet announces: its payload, the range of the first continuation
octet and how many continuation octets follow. -/
structure Lead where
  payload : Nat
  least : UInt8
  greatest : UInt8
  following : Nat

def lead? (octet : UInt8) : Option Lead :=
  if octet < 0x80 then some ⟨octet.toNat, 0x80, 0xbf, 0⟩
  else if octet < 0xc2 then none
  else if octet < 0xe0 then some ⟨octet.toNat - 0xc0, 0x80, 0xbf, 1⟩
  else if octet = 0xe0 then some ⟨0, 0xa0, 0xbf, 2⟩
  else if octet = 0xed then some ⟨0xd, 0x80, 0x9f, 2⟩
  else if octet < 0xf0 then some ⟨octet.toNat - 0xe0, 0x80, 0xbf, 2⟩
  else if octet = 0xf0 then some ⟨0, 0x90, 0xbf, 3⟩
  else if octet < 0xf4 then some ⟨octet.toNat - 0xf0, 0x80, 0xbf, 3⟩
  else if octet = 0xf4 then some ⟨4, 0x80, 0x8f, 3⟩
  else none

/-- A character under way: where it began, with which octet, the payload and the
count of octets so far, and what is still to come. -/
structure Partial where
  start : Nat
  first : UInt8
  length : Nat
  payload : Nat
  least : UInt8
  greatest : UInt8
  following : Nat

def Partial.fault (under : Partial) (fault : EncodingFault) : EncodingError :=
  ⟨fault, under.first, under.start, under.length⟩

def Partial.accept (under : Partial) (octet : UInt8) : Partial :=
  { under with
    length := under.length + 1
    payload := under.payload * 64 + (octet.toNat - 0x80)
    least := 0x80
    greatest := 0xbf
    following := under.following - 1 }

/-- Decodes the octets from a position on, within a character or between two. -/
def decodeFrom (position : Nat) (under : Option Partial) :
    List UInt8 → Except EncodingError (List Char)
  | [] =>
      match under with
      | none => .ok []
      | some under => .error (under.fault .unexpectedEnd)
  | octet :: rest =>
      match under with
      | none =>
          match lead? octet with
          | none => .error ⟨.invalidStart, octet, position, 1⟩
          | some lead =>
              if lead.following = 0 then
                (decodeFrom (position + 1) none rest).map (Char.ofNat lead.payload :: ·)
              else
                decodeFrom (position + 1)
                  (some ⟨position, octet, 1, lead.payload, lead.least, lead.greatest,
                    lead.following⟩) rest
      | some under =>
          if under.least ≤ octet ∧ octet ≤ under.greatest then
            let next := under.accept octet
            if next.following = 0 then
              (decodeFrom (position + 1) none rest).map (Char.ofNat next.payload :: ·)
            else decodeFrom (position + 1) (some next) rest
          else .error (under.fault .invalidContinuation)

def decodeUtf8 (octets : List UInt8) : Except EncodingError (List Char) :=
  decodeFrom 0 none octets

def encodeChar (c : Char) : List UInt8 :=
  let value := c.toNat
  let tail (shift : Nat) : UInt8 := UInt8.ofNat (0x80 + (value >>> shift) % 64)
  if value < 0x80 then [UInt8.ofNat value]
  else if value < 0x800 then [UInt8.ofNat (0xc0 + value >>> 6), tail 0]
  else if value < 0x10000 then [UInt8.ofNat (0xe0 + value >>> 12), tail 6, tail 0]
  else [UInt8.ofNat (0xf0 + value >>> 18), tail 12, tail 6, tail 0]

def encodeUtf8 (s : List Char) : List UInt8 :=
  s.flatMap encodeChar

/-- A carriage return, alone or before a line feed, reads as one line feed. -/
def unifyLineBreaks : List Char → List Char
  | [] => []
  | '\r' :: '\n' :: rest => '\n' :: unifyLineBreaks rest
  | c :: rest => (if c = '\r' then '\n' else c) :: unifyLineBreaks rest

end ImageStages.Text
