import MetadataGateway.Fingerprint

/-!
# Commands to a store

The commands of a store's protocol are lines. A line that sets a value says how many octets the
value has, and the value follows in a block of its own, so that a value may hold any octets. The
reader takes one command from the front of what has come.
-/

namespace MetadataGateway.Cache

/-- A command to a store. -/
inductive Command where
  | get (key : List UInt8)
  | set (key payload : List UInt8)
deriving DecidableEq, Repr

/-- The octets of a text. -/
def octets (text : String) : List UInt8 :=
  Utf8.encodeString text

/-- What ends a line. -/
def lineEnd : List UInt8 := [0x0D, 0x0A]

/-- The octets of a fingerprint. -/
def keyOctets (key : Fingerprint) : List UInt8 :=
  octets key.text

namespace Command

/-- The octets of a command. A value is set without flags and without an end of its time. -/
def encode : Command → List UInt8
  | get key => octets "get " ++ key ++ lineEnd
  | set key payload =>
    octets "set " ++ key ++ octets (" 0 0 " ++ toString payload.length) ++ lineEnd ++ payload
      ++ lineEnd

/-- What stands before and behind the first end of a line. -/
def cutLine? : List UInt8 → Option (List UInt8 × List UInt8)
  | [] => none
  | b :: rest =>
    if b = 0x0D && rest.head? = some 0x0A then some ([], rest.drop 1)
    else (cutLine? rest).map fun (line, behind) => (b :: line, behind)

/-- The number that octets spell in decimal digits. -/
def natOf? (text : List UInt8) : Option Nat :=
  if text != [] && text.all fun b => 0x30 ≤ b && b ≤ 0x39 then
    some (text.foldl (fun n b => n * 10 + (b.toNat - 0x30)) 0)
  else none

/-- The command of a line, and what stands behind it and the block that it announces. -/
def ofLine? (line behind : List UInt8) : Option (Command × List UInt8) :=
  match line.splitOn 0x20 with
  | [word, key] => if word = octets "get" then some (get key, behind) else none
  | [word, key, flags, time, length] =>
    if word = octets "set" && (natOf? flags).isSome && (natOf? time).isSome then
      (natOf? length).bind fun n =>
        let block := behind.drop n
        if n ≤ behind.length && block.take 2 = lineEnd then
          some (set key (behind.take n), block.drop 2)
        else none
    else none
  | _ => none

/-- The command that octets begin with, if it has come as a whole, and what stands behind it. -/
def decode? (text : List UInt8) : Option (Command × List UInt8) :=
  match cutLine? text with
  | some (line, behind) => ofLine? line behind
  | none => none

/-- The commands that octets are, one after another, if they are commands; at most `fuel` of them.
-/
def decodeAll? : Nat → List UInt8 → Option (List Command)
  | _, [] => some []
  | 0, _ :: _ => none
  | fuel + 1, b :: rest => do
    let (c, behind) ← decode? (b :: rest)
    let commands ← decodeAll? fuel behind
    some (c :: commands)

end Command

end MetadataGateway.Cache
