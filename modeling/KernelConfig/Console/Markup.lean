import KernelConfig.Text.Blank
import KernelConfig.Text.Case
import KernelConfig.Text.Digits

/-!
Text with tags in square brackets, which style what stands between an opening and a closing tag and
are not shown. A backslash before a tag makes it plain text.
-/

set_option autoImplicit false

namespace KernelConfig.Console

inductive MarkupFault where
  /-- A closing tag by name without an open tag of that name. -/
  | unopened (tag : String) (position : Nat)
  | nothingOpen (position : Nat)
  deriving DecidableEq, Repr

def MarkupFault.message : MarkupFault → String
  | unopened tag position =>
    "closing tag '[" ++ tag ++ "]' at position " ++ Text.decimal position
      ++ " doesn't match any open tag"
  | nothingOpen position =>
    "closing tag '[/]' at position " ++ Text.decimal position ++ " has nothing to close"

namespace Markup

inductive Piece where
  | text (s : List Char)
  | tag (position : Nat) (body : List Char)
  deriving DecidableEq, Repr

def isTagStart (c : Char) : Bool := ('a' ≤ c && c ≤ 'z') || c = '#' || c = '/' || c = '@'

/-- The body of a tag and the rest behind it; the text begins after the opening bracket. -/
def tagBody? (s : List Char) : Option (List Char × List Char) :=
  match s with
  | [] => none
  | c :: rest =>
    if isTagStart c then
      let body := rest.takeWhile fun c => c ≠ ']' && c ≠ '['
      match rest.drop body.length with
      | ']' :: after => some (c :: body, after)
      | _ => none
    else none

/-- Cuts a text at its tags; `plain` holds the text since the last one, last character first. -/
def piecesFrom (position : Nat) (plain : List Char) : (fuel : Nat) → List Char → List Piece
  | 0, _ => [.text plain.reverse]
  | _, [] => [.text plain.reverse]
  | fuel + 1, c :: s =>
    let slashes := ((c :: s).takeWhile (· = '\\')).length
    match (c :: s).drop slashes with
    | '[' :: rest => match tagBody? rest with
      | some (body, after) =>
        let plain := List.replicate (slashes / 2) '\\' ++ plain
        let next := position + slashes + body.length + 2
        if slashes % 2 = 1 then
          piecesFrom next ((']' :: body.reverse) ++ '[' :: plain) fuel after
        else
          .text plain.reverse :: .tag (position + slashes) body :: piecesFrom next [] fuel after
      | none =>
        -- A backslash before a bracket that begins no tag is not shown.
        let shown := List.replicate (slashes - 1) '\\' ++ plain
        piecesFrom (position + slashes + 1) ('[' :: shown) fuel rest
    | rest =>
      if slashes = 0 then piecesFrom (position + 1) (c :: plain) fuel s
      else piecesFrom (position + slashes) (List.replicate slashes '\\' ++ plain) fuel rest

def pieces (s : List Char) : List Piece := piecesFrom 0 [] (s.length + 1) s

/-- The name in a tag, before an equals sign. -/
def tagName (body : List Char) : String := String.ofList (body.takeWhile (· ≠ '='))

def normalName (s : String) : String := Text.lower (Text.stripText s)

/-- The text of pieces without their tags; `opened` holds the names of the open tags, latest first. -/
def textOf (opened : List String) : List Piece → Except MarkupFault (List Char)
  | [] => .ok []
  | .text s :: rest => (textOf opened rest).map (s ++ ·)
  | .tag position ('/' :: body) :: rest =>
    let name := Text.stripText (tagName body)
    if name = "" then match opened with
      | [] => .error (.nothingOpen position)
      | _ :: opened => textOf opened rest
    else if opened.contains (normalName name) then textOf (opened.erase (normalName name)) rest
    else .error (.unopened (String.ofList ('/' :: body)) position)
  | .tag _ body :: rest => textOf (normalName (tagName body) :: opened) rest

/-- The shown text. -/
def render (s : String) : Except MarkupFault String :=
  (textOf [] (pieces s.toList)).map String.ofList

end Markup

end KernelConfig.Console
