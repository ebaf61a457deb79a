namespace SmithyGen.Utf8

inductive Reason where
  | startByte
  | continuation
  | truncated
deriving DecidableEq, Repr

/-- The bytes from `first` up to and without `stop` cannot be read. -/
structure Fault where
  first : Nat
  stop : Nat
  byte : Nat
  reason : Reason
deriving DecidableEq, Repr

def Reason.text : Reason → String
  | .startByte => "invalid start byte"
  | .continuation => "invalid continuation byte"
  | .truncated => "unexpected end of data"

def hexByte (n : Nat) : String :=
  let ds := Nat.toDigits 16 n
  "0x" ++ String.ofList (List.replicate (2 - ds.length) '0' ++ ds)

def Fault.message (f : Fault) : String :=
  let place :=
    if f.stop == f.first + 1 then "byte " ++ hexByte f.byte ++ " in position " ++ toString f.first
    else "bytes in position " ++ toString f.first ++ "-" ++ toString (f.stop - 1)
  "'utf-8' codec can't decode " ++ place ++ ": " ++ f.reason.text

/-- The second byte of a sequence may be further bounded by the first one, so that there are no
overlong forms, surrogates or code points beyond the last plane. -/
def secondByte (lead : Nat) (b : Nat) : Bool :=
  let lo := if lead == 0xE0 then 0xA0 else if lead == 0xF0 then 0x90 else 0x80
  let hi := if lead == 0xED then 0x9F else if lead == 0xF4 then 0x8F else 0xBF
  lo ≤ b && b ≤ hi

def furtherByte (b : Nat) : Bool := 0x80 ≤ b && b ≤ 0xBF

/-- How many bytes follow a lead byte. -/
def following? (lead : Nat) : Option Nat :=
  if lead < 0x80 then some 0
  else if 0xC2 ≤ lead && lead ≤ 0xDF then some 1
  else if 0xE0 ≤ lead && lead ≤ 0xEF then some 2
  else if 0xF0 ≤ lead && lead ≤ 0xF4 then some 3
  else none

def leadBits (lead : Nat) : Nat → Nat
  | 0 => lead
  | 1 => lead % 32
  | 2 => lead % 16
  | _ => lead % 8

def validFollowers (lead count : Nat) : List UInt8 → Nat
  | [] => 0
  | b :: bs =>
    if count == 0 || !secondByte lead b.toNat then 0
    else 1 + ((bs.take (count - 1)).takeWhile fun b => furtherByte b.toNat).length

/-- Characters from an offset on; `skip` counts the bytes of a sequence still to be passed over. -/
def decodeFrom : (offset skip : Nat) → List UInt8 → Except Fault (List Char)
  | _, _, [] => .ok []
  | offset, skip + 1, _ :: bs => decodeFrom (offset + 1) skip bs
  | offset, 0, b :: bs =>
    match following? b.toNat with
    | none => .error ⟨offset, offset + 1, b.toNat, .startByte⟩
    | some count =>
      let valid := validFollowers b.toNat count bs
      if valid < count then
        let reason := if valid == bs.length then .truncated else .continuation
        .error ⟨offset, offset + 1 + valid, b.toNat, reason⟩
      else
        let code := (bs.take count).foldl (fun n b => n * 64 + b.toNat % 64) (leadBits b.toNat count)
        (decodeFrom (offset + 1) count bs).map (Char.ofNat code :: ·)

/-- Carriage returns, alone or before a line feed, become line feeds. -/
def uniformLines : List Char → List Char
  | [] => []
  | '\r' :: '\n' :: cs => '\n' :: uniformLines cs
  | '\r' :: cs => '\n' :: uniformLines cs
  | c :: cs => c :: uniformLines cs

def decode (bytes : List UInt8) : Except Fault String :=
  (decodeFrom 0 0 bytes).map fun cs => String.ofList (uniformLines cs)

def encode (s : String) : List UInt8 := s.toUTF8.toList

end SmithyGen.Utf8
