import Remedy.Link.FormEncoding
import Remedy.Text.Cut

/-!
# Catalogue queries

A `Query` is a page of the reference catalogue and an ordered list of
parameters that describe the learner's code. It holds the values as they are.
`Query.link` writes it down with encoded values, and may add the parameter that
asks for the embedded form of the page. A `CatalogueLink` is a written query. It
names no host, which `CatalogueLink.withBase` adds.

`CatalogueLink.read?` takes a written query apart again.
-/

namespace Remedy

/-- A catalogue page with its parameters in order, values not encoded. -/
structure Query where
  path : String
  parameters : List (String × String) := []
deriving DecidableEq

/-- A written query: a page, and its encoded parameters. -/
structure CatalogueLink where
  text : String
deriving DecidableEq

namespace Query

/-- Add a parameter behind the others. -/
def add (q : Query) (key value : String) : Query :=
  { q with parameters := q.parameters ++ [(key, value)] }

/-- Add a parameter whose value is a list, written with commas. -/
def addList (q : Query) (key : String) (values : List String) : Query :=
  q.add key (String.intercalate "," values)

/-- The value of the first parameter with the given key. -/
def get? (q : Query) (key : String) : Option String := q.parameters.lookup key

/-- The parameter that asks for the embedded form of a page. -/
def embedding (embedded : Bool) : List (String × String) :=
  if embedded then [("embed", "true")] else []

/-- The written query. A question mark stands before the first parameter and an
ampersand before each further one. -/
def link (q : Query) (embedded : Bool) : CatalogueLink :=
  let written := (q.parameters ++ embedding embedded).map fun (key, value) =>
    key ++ "=" ++ FormEncoding.encode value
  ⟨if written.isEmpty then q.path else q.path ++ "?" ++ String.intercalate "&" written⟩

end Query

namespace CatalogueLink

/-- The page, which ends before the first question mark. -/
def path (l : CatalogueLink) : String :=
  match cutFirst '?' l.text.toList with
  | some (before, _) => String.ofList before
  | none => l.text

/-- The full address under a base, with one slash between the two. -/
def withBase (l : CatalogueLink) (base : String) : String :=
  String.ofList (base.toList.reverse.dropWhile (· == '/')).reverse ++ "/" ++ l.text

/-- A written parameter: its key, which ends before the first equals sign, and
its decoded value. -/
def readParameter? (written : List Char) : Option (String × String) := do
  let (key, value) ← cutFirst '=' written
  let decoded ← FormEncoding.decode (String.ofList value)
  return (String.ofList key, decoded)

/-- The query that a link was written from, every parameter decoded. -/
def read? (l : CatalogueLink) : Option Query :=
  match cutFirst '?' l.text.toList with
  | none => some { path := l.text }
  | some (before, after) => do
      let parameters ← (cutAll '&' after).mapM readParameter?
      return { path := String.ofList before, parameters }

end CatalogueLink

end Remedy
