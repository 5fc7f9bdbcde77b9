import QtAppBase.Qt.Values

/-!
# JSON values

What `QJsonDocument::fromJson` makes of a text, as far as it is read. A value that
is not of the type asked for, or not there at all, gives the default of this type.
-/

namespace QtAppBase.Qt

/-- `QJsonValue`. Nothing reads the value of a number. -/
inductive Json where
  | null
  | bool (value : Bool)
  | number
  | string (text : QString)
  | array (items : List Json)
  | object (members : List (QString × Json))

/-- `QJsonObject`. -/
abbrev JsonObject := List (QString × Json)

namespace Json

/-- `QJsonObject::value`. -/
def value (object : JsonObject) (key : QString) : Json :=
  match object.find? fun member => member.1 = key with
  | some member => member.2
  | none => .null

/-- `QJsonValue::toBool`. -/
def toBool : Json → Bool
  | .bool value => value
  | _ => false

/-- `QJsonValue::toString`. -/
def toString : Json → QString
  | .string text => text
  | _ => ""

/-- `QJsonValue::toArray`. -/
def toArray : Json → List Json
  | .array items => items
  | _ => []

/-- `QJsonValue::toObject`. -/
def toObject : Json → JsonObject
  | .object members => members
  | _ => []

end Json

end QtAppBase.Qt
