/-
Texts in place of lists and objects. A caller may give a list or an object as JSON text
where the parameter asks for one; other values, and texts that a parameter accepts as
such, pass unchanged.

A text with a surrogate that has no partner is left out: what it stands for is not told,
and neither is that it would stay a text.
-/
import TypeShape.Fault
import TypeShape.Parameter.Hint

namespace TypeShape.Hint

/-- Read a text as a list or object. -/
def readCollection (c : Collection) (parameter t : Text) : Except ParameterFault Json :=
  match Json.read t with
  | .error why => .error (.unread parameter why)
  | .ok v => if c.holds v then .ok v else .error (.wrongKind parameter c.name v)

/-- Whether a text starts like a value of some kind, blanks aside. -/
def opens (t : Text) : Kind → Bool
  | .collection c => (Text.trim t).head? == some c.opener
  | _ => false

/-- Read a text where several kinds are accepted. It is read as the first list or object
kind that it starts like; if that fails, it stays a text where texts are accepted. -/
def convertChoice (kinds : List Kind) (parameter t : Text) : Except ParameterFault Json :=
  match kinds.find? (opens t) with
  | some (.collection c) =>
    match readCollection c parameter t with
    | .ok v => .ok v
    | .error fault =>
      if kinds.elem .text && !fault.isLeftOut then .ok (.str t) else .error fault
  | _ => .ok (.str t)

/-- A value for a parameter. -/
def convert (parameter : Text) : Hint → Json → Except ParameterFault Json
  | .choice kinds, .str t => convertChoice kinds parameter t
  | .single (.collection c), .str t => readCollection c parameter t
  | _, v => .ok v

end TypeShape.Hint
