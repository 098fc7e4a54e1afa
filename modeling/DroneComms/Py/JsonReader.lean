import DroneComms.Lib.Wire
import DroneComms.Py.Interpreter
import DroneComms.Py.JsonRoundTrip

/-!
# `json.loads` of an interpreter

Bytes may be UTF-16 or UTF-32 as well as UTF-8.  So `json.loads` is a parameter,
on strings and on bytes, that either returns a value or raises, with the law that
what `json.dumps` wrote is read back.  A surrogate without its pair, which a peer
may write, is no `Char`: any other character stands for it.
-/

namespace DroneComms.Py

/-- `json.dumps(x, separators=(",", ":")).encode("utf-8")`, and with the default
separators. -/
def dumpsCompact (py : Interpreter) (x : Value) : List UInt8 :=
  Wire.utf8 (String.ofList (Json.dumps py.toFloatText [] x))

def dumpsBytes (py : Interpreter) (x : Value) : List UInt8 :=
  Wire.utf8 (String.ofList (Json.dumps py.toFloatText [' '] x))

/-- `json.loads`. -/
structure JsonReader (py : Interpreter) where
  loads : String → Option Value
  loadsBytes : List UInt8 → Option Value
  loads_dumps : ∀ x, Json.WellKeyed x →
    loads (String.ofList (Json.dumps py.toFloatText [] x)) = some x
  loadsBytes_dumps : ∀ x, Json.WellKeyed x → loadsBytes (dumpsBytes py x) = some x

namespace JsonReader

/-- The interpreter for closed runs writes floats the way JSON reads them. -/
def plainText : Json.JsonText where
  toFloatText := Interpreter.plain.toFloatText
  literal_fin := Json.JsonText.plain.literal_fin
  numberChars_fin := Json.JsonText.plain.numberChars_fin

/-- A reader for closed runs. -/
def plain : JsonReader Interpreter.plain where
  loads s := Json.loads plainText.toFloatText s.toList
  loadsBytes bs := (Wire.ofUtf8 bs).bind fun s ↦ Json.loads plainText.toFloatText s.toList
  loads_dumps x hx := by
    rw [String.toList_ofList]
    exact Json.loads_dumps plainText (List.forall_mem_nil _) hx
  loadsBytes_dumps x hx := by
    rw [dumpsBytes, Wire.ofUtf8_utf8, Option.bind_some, String.toList_ofList]
    exact Json.loads_dumps plainText (List.forall_mem_singleton.mpr rfl) hx

end JsonReader

end DroneComms.Py
