import ObliviousRelay.Toml.Lexical

/-!
# Numbers and moments of TOML

Integers of 64 bits in four bases, fractions, and dates and times. Underscores stand only between
two digits, and a decimal number has no leading zero.
-/

namespace ObliviousRelay.Toml

open ObliviousRelay.Config (Tree)

/-! ## §1 Digits -/

/-- Takes digits of a class with single underscores between them. -/
def takeDigits? (isDigitChar : Char → Bool) : Nat → Taker (List Char)
  | 0, _ => none
  | fuel + 1, cs =>
    match cs with
    | d :: '_' :: rest =>
      if isDigitChar d then (takeDigits? isDigitChar fuel rest).map fun (ds, rest) => (d :: ds, rest)
      else none
    | d :: rest =>
      if isDigitChar d then
        match rest with
        | e :: _ =>
          if isDigitChar e then
            (takeDigits? isDigitChar fuel rest).map fun (ds, rest) => (d :: ds, rest)
          else some ([d], rest)
        | [] => some ([d], rest)
      else none
    | [] => none

/-- Takes a sign, if there is one: whether it is a minus. -/
def takeSign (cs : List Char) : Bool × List Char :=
  match cs with
  | '-' :: rest => (true, rest)
  | '+' :: rest => (false, rest)
  | _ => (false, cs)

/-- Takes a decimal whole number without its sign: zero alone, or no leading zero. -/
def takeWhole? (cs : List Char) : Option (List Char × List Char) :=
  match cs with
  | '0' :: rest => some (['0'], rest)
  | _ => takeDigits? Text.isDigit (cs.length + 1) cs

/-! ## §2 Integers -/

/-- An integer of 64 bits. -/
def int64? (n : Int) : Option Int :=
  if -(Nat.pow 2 63 : Int) ≤ n ∧ n < Nat.pow 2 63 then some n else none

/-- Takes digits in a base after its mark. -/
def takeBased? (base : Nat) (cs : List Char) : Option (Int × List Char) := do
  let isDigitChar := fun c => (Text.hexValue? c).any (· < base)
  let (digits, rest) ← takeDigits? isDigitChar (cs.length + 1) cs
  let n ← Text.baseValue? base digits
  some (← int64? n, rest)

/-- Takes an integer. -/
def takeInteger? (cs : List Char) : Option (Int × List Char) :=
  match cs with
  | '0' :: 'x' :: rest => takeBased? 16 rest
  | '0' :: 'o' :: rest => takeBased? 8 rest
  | '0' :: 'b' :: rest => takeBased? 2 rest
  | _ => do
    let (isNegative, rest) := takeSign cs
    let (digits, rest) ← takeWhole? rest
    let n : Int := Text.digitsValue digits
    some (← int64? (if isNegative then -n else n), rest)

/-! ## §3 Fractions -/

/-- The double nearest to `digits · 10^exponent`. -/
def scientific (digits : Nat) (exponent : Int) : Float :=
  let length : Int := (Nat.toDigits 10 digits).length
  if digits = 0 || exponent + length < -400 then 0
  else if 400 < exponent + length then 1 / 0
  else if exponent < 0 then Float.ofScientific digits true exponent.natAbs
  else Float.ofScientific digits false exponent.natAbs

/-- Takes the part of a fraction after the point, if there is one. -/
def takeFraction? (cs : List Char) : Option (List Char × List Char) :=
  match cs with
  | '.' :: rest => takeDigits? Text.isDigit (rest.length + 1) rest
  | _ => some ([], cs)

/-- Takes an exponent, if there is one. -/
def takeExponent? (cs : List Char) : Option (Int × List Char) :=
  match cs with
  | e :: rest =>
    if e = 'e' || e = 'E' then do
      let (isNegative, rest) := takeSign rest
      let (digits, rest) ← takeDigits? Text.isDigit (rest.length + 1) rest
      let n : Int := Text.digitsValue digits
      some (if isNegative then -n else n, rest)
    else some (0, cs)
  | [] => some (0, cs)

/-- Takes a name of what is no finite number. -/
def takeSpecial? (cs : List Char) : Option (Float × List Char) :=
  let (isNegative, rest) := takeSign cs
  match rest with
  | 'i' :: 'n' :: 'f' :: rest => some (if isNegative then -1 / 0 else 1 / 0, rest)
  | 'n' :: 'a' :: 'n' :: rest => some (0 / 0, rest)
  | _ => none

/-- Whether a number goes on as a fraction. -/
def isFractional (cs : List Char) : Bool :=
  match cs.head? with
  | some c => c == '.' || c == 'e' || c == 'E'
  | none => false

/-- Takes a number: a fraction where a point or an exponent follows the whole part. A fraction too
large to represent is refused. -/
def takeNumber? (cs : List Char) : Option (Tree × List Char) :=
  match takeSpecial? cs with
  | some (x, rest) => some (.real x, rest)
  | none =>
    let (isNegative, unsigned) := takeSign cs
    match takeWhole? unsigned with
    | some (whole, rest) =>
      if isFractional rest then do
        let (fraction, rest) ← takeFraction? rest
        let (exponent, rest) ← takeExponent? rest
        let x := scientific (Text.digitsValue (whole ++ fraction)) (exponent - fraction.length)
        let x := if isNegative then -x else x
        if x.isInf && !isNegative then none else some (.real x, rest)
      else (takeInteger? cs).map fun (n, rest) => (.integer n, rest)
    | none => none

/-! ## §4 Moments -/

/-- Takes exactly `count` decimal digits whose value lies in a range. -/
def takeField? (count low high : Nat) : Taker Nat := fun cs =>
  match Text.natural? (cs.take count) with
  | some n =>
    if (cs.take count).length = count ∧ low ≤ n ∧ n ≤ high then some (n, cs.drop count) else none
  | none => none

/-- Takes one expected character. -/
def takeExact? (c : Char) : List Char → Option (List Char)
  | x :: rest => if x = c then some rest else none
  | [] => none

/-- The days of a month. -/
def daysOf (year month : Nat) : Nat :=
  if month = 2 then (if year % 4 = 0 ∧ (year % 100 ≠ 0 ∨ year % 400 = 0) then 29 else 28)
  else if [4, 6, 9, 11].contains month then 30
  else 31

/-- Takes a date. -/
def takeDate? (cs : List Char) : Option (List Char) := do
  let (year, cs) ← takeField? 4 0 9999 cs
  let cs ← takeExact? '-' cs
  let (month, cs) ← takeField? 2 1 12 cs
  let cs ← takeExact? '-' cs
  let (day, cs) ← takeField? 2 1 31 cs
  if day ≤ daysOf year month then some cs else none

/-- Takes a fraction of a second, if there is one. -/
def takeSecondFraction? (cs : List Char) : Option (List Char) :=
  match cs with
  | '.' :: rest =>
    if (rest.takeWhile Text.isDigit).isEmpty then none else some (rest.dropWhile Text.isDigit)
  | _ => some cs

/-- Takes a time of day. -/
def takeTime? (cs : List Char) : Option (List Char) := do
  let (_, cs) ← takeField? 2 0 23 cs
  let cs ← takeExact? ':' cs
  let (_, cs) ← takeField? 2 0 59 cs
  let cs ← takeExact? ':' cs
  let (_, cs) ← takeField? 2 0 60 cs
  takeSecondFraction? cs

/-- Takes an offset from universal time, if there is one. -/
def takeOffset? (cs : List Char) : Option (List Char) :=
  match cs with
  | 'Z' :: rest | 'z' :: rest => some rest
  | '+' :: rest | '-' :: rest => do
    let (_, cs) ← takeField? 2 0 23 rest
    let cs ← takeExact? ':' cs
    let (_, cs) ← takeField? 2 0 59 cs
    some cs
  | _ => some cs

/-- Whether a text goes on with a time of day: two digits and a colon. -/
def startsTime (cs : List Char) : Bool :=
  (Text.natural? (cs.take 2)).isSome && cs[2]? == some ':'

/-- Whether a text goes on with a date: four digits and a dash. -/
def startsDate (cs : List Char) : Bool :=
  (cs.take 4).length == 4 && (Text.natural? (cs.take 4)).isSome && cs[4]? == some '-'

/-- Takes what may follow a date: a time of day and an offset. -/
def takeTimeAfterDate? (cs : List Char) : Option (List Char) :=
  match cs with
  | d :: rest =>
    if (d = 'T' || d = 't' || d = ' ') && startsTime rest then
      (takeTime? rest).bind takeOffset?
    else some cs
  | [] => some []

/-- Takes a date, a time of day, or a date with a time of day. -/
def takeMoment? (cs : List Char) : Option (Tree × List Char) :=
  let rest := if startsDate cs then (takeDate? cs).bind takeTimeAfterDate? else takeTime? cs
  rest.map (.moment, ·)

end ObliviousRelay.Toml
