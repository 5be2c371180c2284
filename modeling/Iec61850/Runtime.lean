import Iec61850.GoOutcome
import Iec61850.SclModel

/-!
# Functions of other packages

The results which the parser and the generator take from packages outside the
repository, and from the parts of the Go library that work on floating-point
numbers, dates and addresses.  Every result about the program holds for all of
them; where one is needed, its behaviour is a named hypothesis.
-/

namespace Iec61850.Scl

open Go

structure Runtime where
  /-- The message of `validator.Validate` on a rejected document. -/
  validateMessage : Str
  castToBool : Str → Bool
  castToIntE : Str → Except Str ℤ
  castToInt64E : Str → Except Str ℤ
  castToFloat32E : Str → Except Str UInt32
  castToFloat64E : Str → Except Str UInt64
  /-- `cast.ToInt`, `cast.ToInt64` and `cast.ToBool` on a stored value. -/
  castToInt : Option GoValue → ℤ
  castToInt64 : Option GoValue → ℤ
  castToBoolValue : Option GoValue → Bool
  /-- `base64.StdEncoding.DecodeString`. -/
  base64Decode : Str → Except Str (List UInt8)
  /-- `time.Parse` with the layout of the source, then `UnixMilli`. -/
  timeParse : Str → Option ℤ
  /-- `strings.ToUpper` on a text with a byte outside ASCII. -/
  unicodeToUpper : Str → Str
  /-- `net.ResolveIPAddr`; the address is the byte slice `IP`. -/
  resolveIPAddr : Str → Option (List UInt8)

/-- An error of a called function, passed on unchanged. -/
def passError {α : Type} : Except Str α → Outcome α
  | .ok a => .ok a
  | .error message => .error (.error message)

def Runtime.toUpper (rt : Runtime) (s : Str) : Str :=
  if s.all isAscii then asciiUpper s else rt.unicodeToUpper s

/-- A runtime for documents whose numbers are decimal integers and which use no
floating-point values, octet strings, dates or addresses. -/
def plainRuntime : Runtime where
  validateMessage := lit "zero value"
  castToBool s := s = lit "true"
  castToIntE s :=
    match parseInt s 10 64 with
    | some n => .ok n
    | none => .error (lit "unable to cast")
  castToInt64E s :=
    match parseInt s 10 64 with
    | some n => .ok n
    | none => .error (lit "unable to cast")
  castToFloat32E _ := .error (lit "unable to cast")
  castToFloat64E _ := .error (lit "unable to cast")
  castToInt
    | some (.int n) | some (.int64 n) => n
    | _ => 0
  castToInt64
    | some (.int n) | some (.int64 n) => n
    | _ => 0
  castToBoolValue
    | some (.bool b) => b
    | _ => false
  base64Decode s := if s = [] then .ok [] else .error (lit "illegal base64 data")
  timeParse _ := none
  unicodeToUpper s := s
  resolveIPAddr s := if s = [] then some [] else none

theorem returns_passError {α : Type} (r : Except Str α) :
    Returns (passError r) := by
  cases r <;> simp [passError]

end Iec61850.Scl
