import MetadataGateway.Cache.Command

/-!
# Replies of a store

A store answers a command with a line, or with a line and a block for each value that it has and a
last line. The reader takes one reply from the front of what has come; it says when there has to
come more and when what has come is no reply.
-/

namespace MetadataGateway.Cache

/-- A value that a store has. -/
structure Item where
  key : List UInt8
  flags : Nat
  payload : List UInt8
deriving DecidableEq, Repr

/-- A reply of a store. -/
inductive Reply where
  | stored
  | notStored
  | exists
  | notFound
  | deleted
  | touched
  | items (values : List Item)
  | number (n : Nat)
  /-- There is no such command. -/
  | noSuchCommand
  | clientError (message : List UInt8)
  | serverError (message : List UInt8)
deriving DecidableEq, Repr

/-- What comes of reading. -/
inductive Reading (α : Type) where
  | done (value : α) (rest : List UInt8)
  /-- What has come may be the front of it. -/
  | more
  /-- What has come is something else. -/
  | refused

namespace Reading

variable {α β : Type}

/-- Read on behind what has been read. -/
def andThen : Reading α → (α → List UInt8 → Reading β) → Reading β
  | done a rest, next => next a rest
  | more, _ => more
  | refused, _ => refused

/-- Read something else if this is refused. -/
def orElse : Reading α → (Unit → Reading α) → Reading α
  | refused, other => other ()
  | r, _ => r

end Reading

namespace Reply

open Reading

/-- The octets of a value that a store has. -/
def encodeItem (i : Item) : List UInt8 :=
  octets "VALUE " ++ i.key ++ octets (" " ++ toString i.flags ++ " " ++ toString i.payload.length)
    ++ lineEnd ++ i.payload ++ lineEnd

/-- The octets of a reply. -/
def encode : Reply → List UInt8
  | stored => octets "STORED" ++ lineEnd
  | notStored => octets "NOT_STORED" ++ lineEnd
  | .exists => octets "EXISTS" ++ lineEnd
  | notFound => octets "NOT_FOUND" ++ lineEnd
  | deleted => octets "DELETED" ++ lineEnd
  | touched => octets "TOUCHED" ++ lineEnd
  | items values => values.flatMap encodeItem ++ octets "END" ++ lineEnd
  | number n => octets (toString n) ++ lineEnd
  | noSuchCommand => octets "ERROR" ++ lineEnd
  | clientError m => octets "CLIENT_ERROR " ++ m ++ lineEnd
  | serverError m => octets "SERVER_ERROR " ++ m ++ lineEnd

/-- Read octets that have to come. -/
def exactly : List UInt8 → List UInt8 → Reading Unit
  | [], text => done () text
  | _ :: _, [] => more
  | b :: word, c :: text => if b = c then exactly word text else refused

/-- Read digits, behind which something else has to come. -/
def digits (text : List UInt8) : Reading Nat :=
  let front := text.takeWhile fun b => 0x30 ≤ b && b ≤ 0x39
  match Command.natOf? front, text.drop front.length with
  | some n, b :: rest => done n (b :: rest)
  | some _, [] => more
  | none, [] => more
  | none, _ :: _ => refused

/-- Read the rest of a line. -/
def lineRest (text : List UInt8) : Reading (List UInt8) :=
  match Command.cutLine? text with
  | some (line, rest) => done line rest
  | none => more

/-- The octets of a key. -/
def isKeyOctet (b : UInt8) : Bool :=
  0x20 < b && b != 0x7F

/-- Read a key, behind which something else has to come. -/
def key (text : List UInt8) : Reading (List UInt8) :=
  let front := text.takeWhile isKeyOctet
  match front, text.drop front.length with
  | b :: k, c :: rest => done (b :: k) (c :: rest)
  | _, [] => more
  | [], _ :: _ => refused

/-- Read a block of so many octets. -/
def block (length : Nat) (text : List UInt8) : Reading (List UInt8) :=
  if text.length < length then more else done (text.take length) (text.drop length)

/-- Read what ends the first line of a value: perhaps a number that tells versions of it apart. -/
def itemLineEnd (text : List UInt8) : Reading Unit :=
  (exactly lineEnd text).orElse fun _ =>
    (exactly (octets " ") text).andThen fun _ text =>
      (digits text).andThen fun _ text => exactly lineEnd text

/-- Read a value. -/
def item (text : List UInt8) : Reading Item :=
  (exactly (octets "VALUE ") text).andThen fun _ text =>
    (key text).andThen fun key text =>
      (exactly (octets " ") text).andThen fun _ text =>
        (digits text).andThen fun flags text =>
          (exactly (octets " ") text).andThen fun _ text =>
            (digits text).andThen fun length text =>
              (itemLineEnd text).andThen fun _ text =>
                (block length text).andThen fun payload text =>
                  (exactly lineEnd text).andThen fun _ text => done ⟨key, flags, payload⟩ text

/-- Read values up to the last line. Every value takes an octet at least, so `fuel` above the number
of octets is never used up. -/
def itemsUpToEnd : Nat → List UInt8 → Reading (List Item)
  | 0, _ => refused
  | fuel + 1, text =>
    ((exactly (octets "END" ++ lineEnd) text).andThen fun _ rest => done [] rest).orElse fun _ =>
      (item text).andThen fun i text =>
        (itemsUpToEnd fuel text).andThen fun is text => done (i :: is) text

/-- Read a line that is a reply. -/
def fixed (word : String) (r : Reply) (text : List UInt8) : Reading Reply :=
  (exactly (octets word ++ lineEnd) text).andThen fun _ rest => done r rest

/-- Read a line that tells of an error. -/
def told (word : String) (r : List UInt8 → Reply) (text : List UInt8) : Reading Reply :=
  (exactly (octets word) text).andThen fun _ rest =>
    (lineRest rest).andThen fun m rest => done (r m) rest

/-- Read a number alone on a line. -/
def numberLine (text : List UInt8) : Reading Reply :=
  (digits text).andThen fun n text =>
    (exactly lineEnd text).andThen fun _ text => done (number n) text

/-- Read a line that begins with a word. -/
def wordLine (text : List UInt8) : Reading Reply :=
  (fixed "STORED" stored text).orElse fun _ =>
    (fixed "NOT_STORED" notStored text).orElse fun _ =>
      (fixed "EXISTS" .exists text).orElse fun _ =>
        (fixed "NOT_FOUND" notFound text).orElse fun _ =>
          (fixed "DELETED" deleted text).orElse fun _ =>
            (fixed "TOUCHED" touched text).orElse fun _ =>
              (fixed "ERROR" noSuchCommand text).orElse fun _ =>
                (told "CLIENT_ERROR " clientError text).orElse fun _ =>
                  told "SERVER_ERROR " serverError text

/-- Read values and the last line behind them. -/
def itemLines (text : List UInt8) : Reading Reply :=
  (itemsUpToEnd (text.length + 1) text).andThen fun is rest => done (items is) rest

/-- Read a reply. -/
def decode (text : List UInt8) : Reading Reply :=
  (wordLine text).orElse fun _ => (numberLine text).orElse fun _ => itemLines text

end Reply

end MetadataGateway.Cache
