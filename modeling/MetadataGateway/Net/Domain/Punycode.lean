/-!
# Labels in ASCII

A label with characters beyond ASCII is written with letters, digits and hyphens. First come its
ASCII characters as they are, and a hyphen if there are any. Then, for each of the others in the
order of their code points, a number says how many steps lie between it and the one before, where a
step leads to the next place of the label and, behind the last, to the next code point. The digits
of a number come with the lowest first; how great a digit may be that ends it depends on the numbers
before, so that numbers of a usual size are short.
-/

namespace MetadataGateway.Net.Domain.Punycode

/-! ## Digits -/

/-- How many digits there are. -/
def base : Nat := 36

/-- The value of a digit: letters come first. -/
def digitValue? (c : Char) : Option Nat :=
  if 'a' ≤ c && c ≤ 'z' then some (c.toNat - 'a'.toNat)
  else if '0' ≤ c && c ≤ '9' then some (c.toNat - '0'.toNat + 26)
  else none

/-- The digit of a value. -/
def digitOf (d : Nat) : Char :=
  if d < 26 then Char.ofNat ('a'.toNat + d) else Char.ofNat ('0'.toNat + (d - 26))

/-- The least value of a digit at a place that does not end a number. -/
def threshold (bias place : Nat) : Nat :=
  if place ≤ bias then 1 else if bias + 26 ≤ place then 26 else place - bias

/-- Every threshold is positive. -/
theorem one_le_threshold (bias place : Nat) : 1 ≤ threshold bias place := by
  simp only [threshold]
  split
  · omega
  · split <;> omega

/-! ## Bias -/

/-- What a number leaves of itself when it is divided until it is small, and the places counted. -/
def settle (delta places : Nat) : Nat :=
  if h : 455 < delta then settle (delta / 35) (places + base)
  else places + base * delta / (delta + 38)
termination_by delta
decreasing_by omega

/-- The bias behind a number; `count` is how many characters the label has with its own, and the
first number of a label is taken for less. -/
def adapt (delta count : Nat) (first : Bool) : Nat :=
  let delta := if first then delta / 700 else delta / 2
  settle (delta + delta / count) 0

/-- The bias before the first number. -/
def initialBias : Nat := 72

/-- The first code point beyond ASCII. -/
def initialCode : Nat := 128

/-! ## Reading -/

/-- The greatest number. -/
def greatest : Nat := 4294967295

/-- A number added to `sum` and what stands behind it; a digit at `place` counts `weight` times. -/
def number? (bias : Nat) : Nat → Nat → Nat → List Char → Option (Nat × List Char)
  | _, _, _, [] => none
  | place, weight, sum, c :: rest =>
    match digitValue? c with
    | none => none
    | some d =>
      if greatest < sum + d * weight then none
      else if d < threshold bias place then some (sum + d * weight, rest)
      else if greatest < weight * (base - threshold bias place) then none
      else
        number? bias (place + base) (weight * (base - threshold bias place)) (sum + d * weight) rest

/-- A number takes at least one character. -/
theorem length_lt_of_number? {bias place weight sum n : Nat} {text rest : List Char}
    (h : number? bias place weight sum text = some (n, rest)) : rest.length < text.length := by
  induction text generalizing place weight sum with
  | nil => simp [number?] at h
  | cons c r ih =>
    unfold number? at h
    split at h
    · contradiction
    · split at h
      · contradiction
      · split at h
        · cases h
          simp
        · split at h
          · contradiction
          · have := ih h
            simp only [List.length_cons]
            omega

/-- The label that numbers make of the characters `found`; `code` is the code point reached, and
`step` the place. -/
def insertAll (bias code step : Nat) (found : List Char) : List Char → Option (List Char)
  | [] => some found
  | c :: r =>
    match h : number? bias base 1 step (c :: r) with
    | none => none
    | some (sum, rest) =>
      let count := found.length + 1
      let code := code + sum / count
      let place := sum % count
      if code.isValidChar then
        insertAll (adapt (sum - step) count (step = 0)) code (place + 1)
          (found.insertIdx place (Char.ofNat code)) rest
      else none
termination_by text => text.length
decreasing_by exact length_lt_of_number? h

/-- The label that a text spells. The ASCII characters stand before the last hyphen, unless that is
at the front. -/
def decode? (text : List Char) : Option (List Char) :=
  let numbers := (text.reverse.takeWhile (· != '-')).reverse
  let front := text.take (text.length - numbers.length)
  if front.length ≤ 1 then insertAll initialBias initialCode 0 [] text
  else insertAll initialBias initialCode 0 front.dropLast numbers

/-! ## Writing -/

/-- The digits of a number from a place on. -/
def digits (bias place n : Nat) : List Char :=
  let t := threshold bias place
  if n < t then [digitOf n]
  else digitOf (t + (n - t) % (base - t)) :: digits bias (place + base) ((n - t) / (base - t))
termination_by n
decreasing_by
  have h1 := one_le_threshold bias place
  have h2 : (n - threshold bias place) / (base - threshold bias place)
      ≤ n - threshold bias place := Nat.div_le_self _ _
  omega

/-- What has been written of a label: how many characters it stands for, the steps since the last
number, and the bias. -/
structure Progress where
  written : List Char
  count : Nat
  delta : Nat
  bias : Nat
deriving DecidableEq, Repr

/-- One character of the label while the code point `code` is looked for; `basic` is how many ASCII
characters the label has. -/
def Progress.pass (basic code : Nat) (p : Progress) (c : Char) : Progress :=
  if c.toNat < code then { p with delta := p.delta + 1 }
  else if c.toNat = code then
    ⟨p.written ++ digits p.bias base p.delta, p.count + 1, 0,
      adapt p.delta (p.count + 1) (p.count = basic)⟩
  else p

/-- The label written for some of its code points in order; `code` is the one reached. -/
def writeCodes (label : List Char) (basic code : Nat) (p : Progress) : List Nat → Progress
  | [] => p
  | m :: rest =>
    let p := { p with delta := p.delta + (m - code) * (p.count + 1) }
    let p := label.foldl (Progress.pass basic m) p
    writeCodes label basic (m + 1) { p with delta := p.delta + 1 } rest

/-- A number put in its place among others in order, unless it is among them. -/
def insertCode (n : Nat) : List Nat → List Nat
  | [] => [n]
  | m :: rest =>
    if n < m then n :: m :: rest else if n = m then m :: rest else m :: insertCode n rest

/-- How a label is written. -/
def encode (label : List Char) : List Char :=
  let front := label.filter fun c => c.toNat < initialCode
  let codes := (label.filter fun c => initialCode ≤ c.toNat).map Char.toNat
  let written := if front = [] then [] else front ++ ['-']
  (writeCodes label front.length initialCode ⟨written, front.length, 0, initialBias⟩
    (codes.foldr insertCode [])).written

end MetadataGateway.Net.Domain.Punycode
