import SeatBilling.Ident.Uuid
import SeatBilling.Json.Value

/-!
# Labels

A console script never names an identifier itself: it names labels, arbitrary strings, and
each label stands for one identifier. The first use of a label binds it to a fresh
identifier. A label may later be re-pointed at a stored record (a discovered subscription or
invoice, or a seeded one); the identifier it named before keeps printing as the label.

In every string of an answer, each identifier a label names is written as that label, both
in its hyphenated form and in its 32-digit simple form. An identifier in hyphenated form that
no label names gets the next label of the form `id1`, `id2`, … when it first shows. The
strings of an answer are written one after another, in the order they stand (keys in order):
each first names the identifiers it shows first, so a simple form written before its
identifier first shows in hyphenated form stays as it is. Ports after a loopback address are
masked before identifiers are written as labels.
-/

namespace SeatBilling.Console

/-- The labels of a script. -/
structure Labels where
  /-- Each label with the identifier it names now, in the order the labels were bound. -/
  bound : List (String × Uuid)
  /-- Every identifier a label names or named, with that label, in the order they got it. -/
  names : List (Uuid × String)
  /-- The labels that name companies, in the order they were first named. -/
  companies : List String
  /-- How many invoices discovery has labelled. -/
  invoiceCount : Nat
  /-- How many identifiers got a label of their own when they first showed. -/
  unnamedCount : Nat
  deriving Repr

namespace Labels

/-- No labels. -/
def empty : Labels := ⟨[], [], [], 0, 0⟩

/-- The identifier a label names now. -/
def lookup (labels : Labels) (label : String) : Option Uuid :=
  (labels.bound.find? (·.1 == label)).map Prod.snd

/-- The label of an identifier. -/
def labelOf (labels : Labels) (id : Uuid) : Option String :=
  (labels.names.find? (·.1 == id)).map Prod.snd

/-- The place of an identifier in the order identifiers got their labels; an identifier a
label was re-pointed at takes its place when that happened. -/
def rankOf (labels : Labels) (id : Uuid) : Option Nat :=
  labels.names.findIdx? (·.1 == id)

/-- Points a label at an identifier: a new label is bound last; a bound one keeps its place,
and the identifier it named keeps its name. -/
def point (labels : Labels) (label : String) (id : Uuid) : Labels :=
  let bound :=
    if labels.bound.any (·.1 == label) then
      labels.bound.map (fun entry => if entry.1 == label then (label, id) else entry)
    else labels.bound ++ [(label, id)]
  let names := if labels.names.any (·.1 == id) then labels.names else labels.names ++ [(id, label)]
  { labels with bound := bound, names := names }

/-- Registers a label as a company's, if it is not yet. -/
def registerCompany (labels : Labels) (label : String) : Labels :=
  if labels.companies.contains label then labels else { labels with companies := labels.companies ++ [label] }

/-! ## Writing identifiers as labels -/

/-- Whether a character is a lowercase hexadecimal digit. -/
def isLowerHex (char : Char) : Bool := char.isDigit || ('a' ≤ char && char ≤ 'f')

/-- The identifier a hyphenated lowercase form at the start of `chars` writes, if any. -/
def hyphenatedAt (chars : List Char) : Option Uuid :=
  let candidate := chars.take 36
  let shapeOk := candidate.length == 36 &&
    (List.range 36).all (fun index =>
      let char := candidate.getD index ' '
      if index == 8 || index == 13 || index == 18 || index == 23 then char == '-' else isLowerHex char)
  if shapeOk then Uuid.parse? (String.ofList candidate) else none

/-- The identifier a simple lowercase form at the start of `chars` writes, if any. -/
def simpleAt (chars : List Char) : Option Uuid :=
  let candidate := chars.take 32
  if candidate.length == 32 && candidate.all isLowerHex then Uuid.parse? (String.ofList candidate) else none

/-- The hyphenated identifiers in a text, left to right. -/
def hyphenatedIn : List Char → List Uuid
  | [] => []
  | char :: rest =>
    match hyphenatedAt (char :: rest) with
    | some id => id :: hyphenatedIn ((char :: rest).drop 36)
    | none => hyphenatedIn rest
  termination_by chars => chars.length
  decreasing_by all_goals (simp only [List.length_drop, List.length_cons]; omega)

/-- Gives a label to every identifier in `ids` that has none. -/
def nameAll (labels : Labels) : List Uuid → Labels
  | [] => labels
  | id :: rest =>
    if (labels.labelOf id).isSome then nameAll labels rest
    else
      let count := labels.unnamedCount + 1
      nameAll ({ labels.point ("id" ++ toString count) id with unnamedCount := count }) rest

/-- A text with every named identifier written as its label. -/
def writeLabels (labels : Labels) : List Char → List Char
  | [] => []
  | char :: rest =>
    let here := char :: rest
    match (hyphenatedAt here).bind labels.labelOf with
    | some label => label.toList ++ writeLabels labels (here.drop 36)
    | none =>
      match (simpleAt here).bind labels.labelOf with
      | some label => label.toList ++ writeLabels labels (here.drop 32)
      | none => char :: writeLabels labels rest
  termination_by chars => chars.length
  decreasing_by all_goals (simp only [List.length_drop, List.length_cons]; omega)

/-- A text with the port after every loopback address `127.0.0.1:` written `PORT`: ports are
chosen afresh on every run, so an answer never shows one. -/
def maskPorts : List Char → List Char
  | '1' :: '2' :: '7' :: '.' :: '0' :: '.' :: '0' :: '.' :: '1' :: ':' :: rest =>
    let digits := rest.takeWhile Char.isDigit
    if digits.isEmpty then "127.0.0.1:".toList ++ maskPorts rest
    else "127.0.0.1:PORT".toList ++ maskPorts (rest.drop digits.length)
  | char :: rest => char :: maskPorts rest
  | [] => []
  termination_by chars => chars.length
  decreasing_by all_goals (simp only [List.length_drop, List.length_cons]; omega)

mutual

/-- Writes the strings of a document in order: each with its loopback ports masked, then the
identifiers it shows first in hyphenated form named, then every named identifier written as
its label. Gives the document and the labels after it. -/
def relabel (labels : Labels) : Json → Json × Labels
  | .str text =>
    let masked := maskPorts text.toList
    let named := labels.nameAll (hyphenatedIn masked)
    (.str (String.ofList (named.writeLabels masked)), named)
  | .arr items =>
    let (items, labels) := relabelItems labels items
    (.arr items, labels)
  | .obj members =>
    let (members, labels) := relabelMembers labels members
    (.obj members, labels)
  | other => (other, labels)

/-- `relabel` over the items of an array. -/
def relabelItems (labels : Labels) : List Json → List Json × Labels
  | [] => ([], labels)
  | item :: rest =>
    let (item, labels) := relabel labels item
    let (rest, labels) := relabelItems labels rest
    (item :: rest, labels)

/-- `relabel` over the values of an object's members. -/
def relabelMembers (labels : Labels) : List (String × Json) → List (String × Json) × Labels
  | [] => ([], labels)
  | (key, value) :: rest =>
    let (value, labels) := relabel labels value
    let (rest, labels) := relabelMembers labels rest
    ((key, value) :: rest, labels)

end

end Labels

end SeatBilling.Console
