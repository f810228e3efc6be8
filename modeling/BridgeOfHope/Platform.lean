import BridgeOfHope.Python

namespace BridgeOfHope

-- What the code takes from outside the repository: Unicode tables, the JSON
-- decoder, the collation of the CITEXT columns, the database driver, and two
-- signing libraries.
class Platform where
  upper : String → String
  lower : String → String
  reprStr : String → String
  citext : String → String
  loads : Bytes → Except Exn Json
  -- asyncpg: the value of a UUID parameter that is given as a text
  pgUuid : String → Except Exn (BitVec 128)
  -- itsdangerous: URLSafeTimedSerializer(secret, salt)
  dumps : (secret salt : String) → Json → Time → String
  unsign : (secret salt token : String) → (maxAge : ℕ) → Time → Except Exn Json
  stripeImportable : Bool
  -- stripe.Webhook.construct_event(body, signature header, secret)
  constructEvent : Bytes → (signature secret : String) → Except Exn Json

namespace Json

variable [Platform]

mutual

-- `repr(value)` of a decoded value.
def repr : Json → String
  | null => "None"
  | bool value => if value then "True" else "False"
  | int value => toString value
  | float text => text
  | str value => Platform.reprStr value
  | arr items => "[" ++ reprItems items ++ "]"
  | obj fields => "\x7b" ++ reprFields fields ++ "\x7d"

def reprItems : List Json → String
  | [] => ""
  | [item] => repr item
  | item :: items => repr item ++ ", " ++ reprItems items

def reprFields : List (String × Json) → String
  | [] => ""
  | [(key, value)] => Platform.reprStr key ++ ": " ++ repr value
  | (key, value) :: fields => Platform.reprStr key ++ ": " ++ repr value ++ ", " ++ reprFields fields

end

-- `str(value)`
def toStr : Json → String
  | str value => value
  | value => repr value

end Json

end BridgeOfHope
