import ImageStages.Digest.Sha512
import ImageStages.Text.Utf8

namespace ImageStages.Digest

/-- The usual count of rounds, which a hash does not name. -/
def cryptRounds : Nat := 5000

def repeated (count : Nat) (octets : ByteArray) : ByteArray :=
  Nat.fold count (fun _ _ whole => whole ++ octets) ByteArray.empty

def stretched (length : Nat) (octets : ByteArray) : ByteArray :=
  repeated (length / octets.size) octets ++ octets.extract 0 (length % octets.size)

/-- The bits of a number from the lowest to the highest that is set. -/
def bitsOf (fuel value : Nat) : List Bool :=
  match fuel with
  | 0 => []
  | fuel + 1 => if value = 0 then [] else (value % 2 = 1) :: bitsOf fuel (value / 2)

def firstDigest (password salt : ByteArray) : ByteArray :=
  let alternate := sha512 (password ++ salt ++ password)
  let message := password ++ salt ++ stretched password.size alternate
  sha512 ((bitsOf password.size password.size).foldl
    (fun message bit => message ++ (if bit then alternate else password)) message)

/-- One round mixes the digest so far with the password and salt strings. -/
def cryptRound (password salt digest : ByteArray) (round : Nat) : ByteArray :=
  let odd := round % 2 = 1
  let first := if odd then password else digest
  let salted := if round % 3 = 0 then first else first ++ salt
  let mixed := if round % 7 = 0 then salted else salted ++ password
  sha512 (mixed ++ (if odd then digest else password))

def cryptDigest (password salt : ByteArray) : ByteArray :=
  let first := firstDigest password salt
  let passwordString := stretched password.size (sha512 (repeated password.size password))
  let saltRepeats := 16 + (octetAt first 0).toNat
  let saltString := stretched salt.size (sha512 (repeated saltRepeats salt))
  Nat.fold cryptRounds (fun round _ digest => cryptRound passwordString saltString digest round)
    first

def cryptAlphabet : List Char :=
  "./0123456789ABCDEFGHIJKLMNOPQRSTUVWXYZabcdefghijklmnopqrstuvwxyz".toList

/-- The lowest `count` sextets of a number, the lowest first. -/
def sextets (count value : Nat) : List Char :=
  (List.range count).map fun index =>
    (cryptAlphabet[(value >>> (6 * index)) % 64]?).getD '.'

/-- The order in which the digest's octets enter the text, three at a time. -/
def cryptTriples : List (Nat × Nat × Nat) := [
  (0, 21, 42), (22, 43, 1), (44, 2, 23), (3, 24, 45), (25, 46, 4), (47, 5, 26),
  (6, 27, 48), (28, 49, 7), (50, 8, 29), (9, 30, 51), (31, 52, 10), (53, 11, 32),
  (12, 33, 54), (34, 55, 13), (56, 14, 35), (15, 36, 57), (37, 58, 16), (59, 17, 38),
  (18, 39, 60), (40, 61, 19), (62, 20, 41)]

def digestText (digest : ByteArray) : List Char :=
  let octet (index : Nat) : Nat := (octetAt digest index).toNat
  cryptTriples.flatMap (fun (a, b, c) =>
    sextets 4 (octet a * 65536 + octet b * 256 + octet c)) ++ sextets 2 (octet 63)

def cryptMark : String := "$6$"

def octetsOf (s : String) : ByteArray :=
  ⟨(Text.encodeUtf8 s.toList).toArray⟩

def crypt (salt password : String) : String :=
  cryptMark ++ salt ++ "$" ++
    String.ofList (digestText (cryptDigest (octetsOf password) (octetsOf salt)))

end ImageStages.Digest
