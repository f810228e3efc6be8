import BridgeOfHope.Runtime

namespace BridgeOfHope

variable [Platform]

-- `str(id)` of a UUID: 32 lower-case hex digits in groups of 8, 4, 4, 4 and 12.
def Uuid.toText (id : Uuid) : String :=
  let digits := Nat.toDigits 16 id.toNat
  let hex := List.replicate (32 - digits.length) '0' ++ digits
  String.ofList (hex.take 8 ++ '-' :: (hex.drop 8).take 4 ++ '-' :: (hex.drop 12).take 4 ++
    '-' :: (hex.drop 16).take 4 ++ '-' :: hex.drop 20)

-- Leaves out every occurrence of `part`, from the left. `skip` characters of
-- the current occurrence are still to be left out.
def without (part : List Char) (skip : ℕ) : List Char → List Char
  | [] => []
  | c :: cs =>
      if 0 < skip then without part (skip - 1) cs
      else if part.isPrefixOf (c :: cs) then without part (part.length - 1) cs
      else c :: without part 0 cs

-- `uuid.UUID(text)`: braces, a URN prefix and hyphens are left out of the 32 digits.
def Uuid.ofText (text : String) : Except Exn Uuid :=
  let plain := without "uuid:".toList 0 (without "urn:".toList 0 text.toList)
  let brace := fun c => c = '{' || c = '}'
  let hex := ((plain.dropWhile brace).reverse.dropWhile brace).reverse.filter (· ≠ '-')
  if hex.length ≠ 32 then .error ⟨.valueError, "badly formed hexadecimal UUID string"⟩
  else match intHex hex with
    | none => .error ⟨.valueError, "invalid literal for int() with base 16: " ++
        Platform.reprStr (String.ofList hex)⟩
    | some value =>
        if 0 ≤ value ∧ value < 2 ^ 128 then .ok (BitVec.ofInt 128 value)
        else .error ⟨.valueError, "int is out of range (need a 128-bit value)"⟩

-- `uuid.UUID(value)` of a decoded JSON value.
def Uuid.ofJson : Json → Except Exn Uuid
  | .str text => Uuid.ofText text
  | .null => .error ⟨.typeError, "one of the hex, bytes, bytes_le, fields, or int arguments must be given"⟩
  | _ => .error ⟨.attributeError, "object has no attribute 'replace'"⟩

def manageTokenMaxAge : ℕ := 60 * 60 * 24 * 90

def manageTokenSalt : String := "donor-manage-token"

def issueManageToken (secretKey : String) (donorId : Uuid) (time : Time) : String :=
  Platform.dumps secretKey manageTokenSalt (.obj [("donor_id", .str donorId.toText)]) time

def verifyManageToken (secretKey token : String) (time : Time) : Except Exn (Option Uuid) :=
  match Platform.unsign secretKey manageTokenSalt token manageTokenMaxAge time with
  | .error error =>
      if error.cls = .badSignature ∨ error.cls = .signatureExpired then .ok none else .error error
  | .ok data => match (data.item "donor_id").bind Uuid.ofJson with
    | .ok id => .ok (some id)
    | .error error =>
        if error.cls = .keyError ∨ error.cls = .valueError ∨ error.cls = .typeError then .ok none
        else .error error

end BridgeOfHope
