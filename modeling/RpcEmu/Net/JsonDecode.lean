import Mathlib.Data.List.Infix

/-!
# Frames as lines of JSON

`net_json_decode` of `net_json.c`.  A line is a C string with an object of four keys, which are looked for
by name; the payload is in base64.
-/

namespace RpcEmu.Net

def netJsonMaxFrame : Nat := 1522
def netJsonHeaderLen : Nat := 14

def ascii (cs : List Char) : List UInt8 := cs.map fun c => UInt8.ofNat c.toNat

def cString (buffer : List UInt8) : List UInt8 := buffer.takeWhile fun b => b ≠ 0

/-- `strstr`. -/
def strstr (line needle : List UInt8) : Option (List UInt8) := line.tails.find? needle.isPrefixOf

/-- `strchr`. -/
def strchr (line : List UInt8) (c : UInt8) : Option (List UInt8) :=
  match line.dropWhile fun b => b ≠ c with
  | [] => none
  | rest => some rest

def isDigit (b : UInt8) : Bool := 48 ≤ b && b ≤ 57

/-- `isspace`. -/
def isSpace (b : UInt8) : Bool := b == 32 || (9 ≤ b && b ≤ 13)

/-- `strtol` in base 10: the number and where it ends, where there is one. -/
def strtol (p : List UInt8) : Option (Int × List UInt8) :=
  let p := p.dropWhile isSpace
  let (negative, p) :=
    match p with
    | 45 :: rest => (true, rest)
    | 43 :: rest => (false, rest)
    | _ => (false, p)
  match p.takeWhile isDigit with
  | [] => none
  | digits =>
    let n : Int := digits.foldl (fun n b => 10 * n + (b.toNat - 48)) 0
    some (if negative then -n else n, p.dropWhile isDigit)

/-- `base64_value`. -/
def base64Value (c : UInt8) : Option UInt32 :=
  if 65 ≤ c ∧ c ≤ 90 then some (c - 65).toUInt32
  else if 97 ≤ c ∧ c ≤ 122 then some ((c - 97).toUInt32 + 26)
  else if 48 ≤ c ∧ c ≤ 57 then some ((c - 48).toUInt32 + 52)
  else if c = 43 then some 62
  else if c = 47 then some 63
  else none

/-- The loop of `base64_decode`. -/
def base64Loop (outSize : Nat) : List UInt8 → UInt32 → UInt32 → List UInt8 → Option (List UInt8)
  | [], _, _, out => some out
  | c :: cs, acc, bits, out =>
    if c = 61 then some out
    else
      match base64Value c with
      | none => none
      | some v =>
        let acc := (acc <<< 6) ||| v
        let bits := bits + 6
        if 8 ≤ bits then
          let bits := bits - 8
          if outSize ≤ out.length then none
          else base64Loop outSize cs acc bits (out ++ [((acc >>> bits) &&& 0xff).toUInt8])
        else base64Loop outSize cs acc bits out

/-- `base64_decode`. -/
def base64Decode (input : List UInt8) (outSize : Nat) : Option (List UInt8) := base64Loop outSize input 0 0 []

/-- `json_value_of`. -/
def jsonValueOf (line key : List UInt8) : Option (List UInt8) := do
  let quoted := 34 :: key ++ [34]
  let p ← strstr line quoted
  let p ← strchr (p.drop quoted.length) 58
  some ((p.drop 1).dropWhile fun b => b == 32 || b == 9)

/-- The loop of `json_mac_of`, with so many numbers to go. -/
def macLoop : Nat → List UInt8 → Option (List UInt8)
  | 0, _ => some []
  | n + 1, p => do
    let (v, rest) ← strtol (p.dropWhile fun b => b == 32 || b == 44)
    if v < 0 ∨ 255 < v then none
    else do
      let mac ← macLoop n rest
      some (UInt8.ofNat v.toNat :: mac)

/-- `json_mac_of`. -/
def jsonMacOf (line key : List UInt8) : Option (List UInt8) := do
  match ← jsonValueOf line key with
  | 91 :: p => macLoop 6 p
  | _ => none

/-- `net_json_decode`: the frame, where the line is one. -/
def netJsonDecode (line : List UInt8) (outSize : Nat) : Option (List UInt8) := do
  if outSize < netJsonHeaderLen then none
  else do
    let dst ← jsonMacOf line (ascii ['d', 's', 't'])
    let src ← jsonMacOf line (ascii ['s', 'r', 'c'])
    let p ← jsonValueOf line (ascii ['f', 'r', 'a', 'm', 'e', '_', 't', 'y', 'p', 'e'])
    let (frameType, _) ← strtol p
    if frameType < 0 ∨ 0xffff < frameType then none
    else
      match ← jsonValueOf line (ascii ['d', 'a', 't', 'a']) with
      | 34 :: p => do
        let rest ← strchr p 34
        let payload ← base64Decode (p.take (p.length - rest.length)) (outSize - netJsonHeaderLen)
        some (dst ++ src ++ [UInt8.ofNat (frameType.toNat / 256), UInt8.ofNat frameType.toNat] ++ payload)
      | _ => none

end RpcEmu.Net
