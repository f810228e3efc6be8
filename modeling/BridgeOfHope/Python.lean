import Mathlib.Algebra.Group.Int.Defs
import Mathlib.Algebra.Group.Nat.Defs
import Mathlib.Data.Nat.Notation

namespace BridgeOfHope

abbrev Bytes := List UInt8

-- The exception classes that the handlers tell apart. Every other class is
-- `other`: it is an `Exception` that only a bare `except Exception` catches.
inductive ExnClass : Type
  | httpException (status : ℕ)
  | providerNotConfigured
  | notImplementedError
  | valueError
  | keyError
  | typeError
  | attributeError
  | overflowError
  | moduleNotFoundError
  | badSignature
  | signatureExpired
  | pendingRollbackError
  | other
deriving DecidableEq

structure Exn where
  cls : ExnClass
  message : String
deriving DecidableEq

-- What `json.loads` builds. A float is kept as the text `repr` gives it.
inductive Json : Type
  | null
  | bool (value : Bool)
  | int (value : Int)
  | float (repr : String)
  | str (value : String)
  | arr (items : List Json)
  | obj (fields : List (String × Json))

namespace Json

-- A repeated key of a JSON object keeps its last value.
def lookup (key : String) (fields : List (String × Json)) : Option Json :=
  (fields.reverse.find? fun field => field.1 = key).map Prod.snd

-- `data[key]`
def item (data : Json) (key : String) : Except Exn Json :=
  match data with
  | obj fields => match lookup key fields with
    | some value => .ok value
    | none => .error ⟨.keyError, "'" ++ key ++ "'"⟩
  | _ => .error ⟨.typeError, "indices must be integers"⟩

-- `data.get(key, default)`
def get (data : Json) (key : String) (default : Json) : Except Exn Json :=
  match data with
  | obj fields => .ok ((lookup key fields).getD default)
  | _ => .error ⟨.attributeError, "object has no attribute 'get'"⟩

-- The database driver takes a `str` for a text parameter and nothing else.
def text (value : Json) : Except Exn String :=
  match value with
  | str value => .ok value
  | _ => .error ⟨.other, "expected str"⟩

mutual

def decEq : (a b : Json) → Decidable (a = b)
  | null, null => isTrue rfl
  | bool a, bool b => if h : a = b then isTrue (h ▸ rfl) else isFalse fun e => h (bool.inj e)
  | int a, int b => if h : a = b then isTrue (h ▸ rfl) else isFalse fun e => h (int.inj e)
  | float a, float b => if h : a = b then isTrue (h ▸ rfl) else isFalse fun e => h (float.inj e)
  | str a, str b => if h : a = b then isTrue (h ▸ rfl) else isFalse fun e => h (str.inj e)
  | arr a, arr b => match decEqItems a b with
    | isTrue h => isTrue (h ▸ rfl)
    | isFalse h => isFalse fun e => h (arr.inj e)
  | obj a, obj b => match decEqFields a b with
    | isTrue h => isTrue (h ▸ rfl)
    | isFalse h => isFalse fun e => h (obj.inj e)
  | null, bool _ | null, int _ | null, float _ | null, str _ | null, arr _ | null, obj _
  | bool _, null | bool _, int _ | bool _, float _ | bool _, str _ | bool _, arr _ | bool _, obj _
  | int _, null | int _, bool _ | int _, float _ | int _, str _ | int _, arr _ | int _, obj _
  | float _, null | float _, bool _ | float _, int _ | float _, str _ | float _, arr _
  | float _, obj _ | str _, null | str _, bool _ | str _, int _ | str _, float _ | str _, arr _
  | str _, obj _ | arr _, null | arr _, bool _ | arr _, int _ | arr _, float _ | arr _, str _
  | arr _, obj _ | obj _, null | obj _, bool _ | obj _, int _ | obj _, float _ | obj _, str _
  | obj _, arr _ => isFalse fun e => Json.noConfusion e

def decEqItems : (a b : List Json) → Decidable (a = b)
  | [], [] => isTrue rfl
  | [], _ :: _ => isFalse (List.cons_ne_nil _ _).symm
  | _ :: _, [] => isFalse (List.cons_ne_nil _ _)
  | a :: as, b :: bs => match decEq a b, decEqItems as bs with
    | isTrue h, isTrue hs => isTrue (h ▸ hs ▸ rfl)
    | isFalse h, _ => isFalse fun e => h (List.cons.inj e).1
    | _, isFalse hs => isFalse fun e => hs (List.cons.inj e).2

def decEqFields : (a b : List (String × Json)) → Decidable (a = b)
  | [], [] => isTrue rfl
  | [], _ :: _ => isFalse (List.cons_ne_nil _ _).symm
  | _ :: _, [] => isFalse (List.cons_ne_nil _ _)
  | (k, a) :: as, (l, b) :: bs => match decEq a b, decEqFields as bs with
    | isTrue h, isTrue hs => if hk : k = l then isTrue (h ▸ hs ▸ hk ▸ rfl)
        else isFalse fun e => hk (Prod.ext_iff.mp (List.cons.inj e).1).1
    | isFalse h, _ => isFalse fun e => h (Prod.ext_iff.mp (List.cons.inj e).1).2
    | _, isFalse hs => isFalse fun e => hs (List.cons.inj e).2

end

instance : DecidableEq Json := decEq

end Json

-- The code points of the zeros of every run of ten decimal digits (category Nd).
def decimalZeros : List ℕ :=
  [0x0030, 0x0660, 0x06f0, 0x07c0, 0x0966, 0x09e6, 0x0a66, 0x0ae6, 0x0b66, 0x0be6, 0x0c66, 0x0ce6,
    0x0d66, 0x0de6, 0x0e50, 0x0ed0, 0x0f20, 0x1040, 0x1090, 0x17e0, 0x1810, 0x1946, 0x19d0, 0x1a80,
    0x1a90, 0x1b50, 0x1bb0, 0x1c40, 0x1c50, 0xa620, 0xa8d0, 0xa900, 0xa9d0, 0xa9f0, 0xaa50, 0xabf0,
    0xff10, 0x104a0, 0x10d30, 0x11066, 0x110f0, 0x11136, 0x111d0, 0x112f0, 0x11450, 0x114d0,
    0x11650, 0x116c0, 0x11730, 0x118e0, 0x11950, 0x11c50, 0x11d50, 0x11da0, 0x11f50, 0x16a60,
    0x16ac0, 0x16b50, 0x1d7ce, 0x1d7d8, 0x1d7e2, 0x1d7ec, 0x1d7f6, 0x1e140, 0x1e2f0, 0x1e4f0,
    0x1e950, 0x1fbf0]

-- `\d` of a Unicode pattern.
def isDecimal (c : Char) : Bool :=
  decimalZeros.any fun first => first ≤ c.toNat && c.toNat < first + 10

-- The blanks beyond ASCII (`str.isspace`).
def otherBlanks : List ℕ :=
  [0x85, 0xa0, 0x1680, 0x2000, 0x2001, 0x2002, 0x2003, 0x2004, 0x2005, 0x2006, 0x2007, 0x2008, 0x2009,
    0x200a, 0x2028, 0x2029, 0x202f, 0x205f, 0x3000]

-- `int` first writes the digits and the blanks of other scripts in ASCII.
def asciiDigit (c : Char) : Char :=
  if c.toNat < 127 then c
  else if c.toNat ∈ otherBlanks then ' '
  else match decimalZeros.find? fun first => first ≤ c.toNat && c.toNat < first + 10 with
    | some first => Char.ofNat ('0'.toNat + (c.toNat - first))
    | none => '?'

def hexValue (c : Char) : Option ℕ :=
  if '0' ≤ c ∧ c ≤ '9' then some (c.toNat - '0'.toNat)
  else if 'a' ≤ c ∧ c ≤ 'f' then some (c.toNat - 'a'.toNat + 10)
  else if 'A' ≤ c ∧ c ≤ 'F' then some (c.toNat - 'A'.toNat + 10)
  else none

def isBlank (c : Char) : Bool := c ∈ [' ', '\t', '\n', '\x0b', '\x0c', '\r']

-- Without a prefix `0x`, and without the underscore that may follow it.
def dropHexPrefix (text : List Char) : List Char :=
  if text.head? = some '0' ∧ (text[1]? = some 'x' ∨ text[1]? = some 'X') then
    if text[2]? = some '_' then text.drop 3 else text.drop 2
  else text

-- The digits of a number in base 16, with single underscores between them.
def hexDigits (text : List Char) : Option (List ℕ) :=
  if [] ∈ text.splitOn '_' then none else (text.filter (· ≠ '_')).mapM hexValue

-- `int(text, 16)`: blanks around the number, a sign and a prefix are accepted.
def intHex (text : List Char) : Option Int := do
  let number := (((text.map asciiDigit).dropWhile isBlank).reverse.dropWhile isBlank).reverse
  let signed := number.head? = some '-' || number.head? = some '+'
  let digits ← hexDigits (dropHexPrefix (if signed then number.drop 1 else number))
  let value : ℕ := digits.foldl (fun n v => 16 * n + v) 0
  return if number.head? = some '-' then -value else value

-- A moment: microseconds since 1970-01-01T00:00:00 UTC.
abbrev Time := ℕ

def pad (width n : ℕ) : String :=
  String.ofList (List.replicate (width - (Nat.toDigits 10 n).length) '0') ++ toString n

-- Year, month and day of a count of days since 1970-01-01 (proleptic Gregorian).
def civil (days : ℕ) : ℕ × ℕ × ℕ :=
  let z := days + 719468
  let era := z / 146097
  let doe := z % 146097
  let yoe := (doe - doe / 1460 + doe / 36524 - doe / 146096) / 365
  let doy := doe - (365 * yoe + yoe / 4 - yoe / 100)
  let mp := (5 * doy + 2) / 153
  let month := if mp < 10 then mp + 3 else mp - 9
  (yoe + era * 400 + (if month ≤ 2 then 1 else 0), month, doy - (153 * mp + 2) / 5 + 1)

namespace Time

def seconds (time : Time) : ℕ := time / 1000000

-- `.date().isoformat()`
def dateIso (time : Time) : String :=
  let (year, month, day) := civil (time.seconds / 86400)
  pad 4 year ++ "-" ++ pad 2 month ++ "-" ++ pad 2 day

-- `.isoformat()` of an aware UTC datetime. The fraction is left out when it is zero.
def isoformat (time : Time) : String :=
  let s := time.seconds % 86400
  let micros := time % 1000000
  time.dateIso ++ "T" ++ pad 2 (s / 3600) ++ ":" ++ pad 2 (s / 60 % 60) ++ ":" ++ pad 2 (s % 60) ++
    (if micros = 0 then "" else "." ++ pad 6 micros) ++ "+00:00"

-- `.strftime("%Y%m%d%H%M%S")`
def compact (time : Time) : String :=
  let (year, month, day) := civil (time.seconds / 86400)
  let s := time.seconds % 86400
  pad 4 year ++ pad 2 month ++ pad 2 day ++ pad 2 (s / 3600) ++ pad 2 (s / 60 % 60) ++ pad 2 (s % 60)

end Time

-- The integer closest to `num / den`, a tie going to the even one.
def roundHalfEven (num den : ℕ) : ℕ :=
  let q := num / den
  let r := num % den
  if 2 * r < den then q else if den < 2 * r then q + 1 else if q % 2 = 0 then q else q + 1

-- `num / den` of two positive integers: the closest double, as a fraction. It
-- has a significand of 53 bits, and no double is as large as `2 ^ 1024`.
def trueDiv (num den : ℕ) : Except Exn (ℕ × ℕ) :=
  let guess := (num.log2 : Int) - den.log2 - 52
  -- the quotient has either 53 or 52 bits at this exponent
  let exponent := if num * 2 ^ (-guess).toNat < den * 2 ^ guess.toNat * 2 ^ 52 then guess - 1 else guess
  let significand := roundHalfEven (num * 2 ^ (-exponent).toNat) (den * 2 ^ exponent.toNat)
  let double := (significand * 2 ^ exponent.toNat, 2 ^ (-exponent).toNat)
  if 1024 ≤ (double.1 / double.2).log2 then
    .error ⟨.overflowError, "integer division result too large for a float"⟩
  else .ok double

-- `f"{x:.2f}"` of a double that is not negative.
def fixed2 (double : ℕ × ℕ) : String :=
  let cents := roundHalfEven (100 * double.1) double.2
  toString (cents / 100) ++ "." ++ pad 2 (cents % 100)

-- `f"{amount_minor / 100:.2f}"`
def decimalAmount (amountMinor : Int) : Except Exn String := do
  let double ← trueDiv amountMinor.natAbs 100
  return (if amountMinor < 0 then "-" else "") ++ fixed2 double

end BridgeOfHope
