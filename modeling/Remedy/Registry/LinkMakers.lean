import Remedy.Advice.ArrayCreation
import Remedy.Advice.MethodCall
import Remedy.Advice.MethodResult
import Remedy.Advice.Naming
import Remedy.Advice.VariableType
import Remedy.Link.SourceText

/-!
# The registry of link makers

A kind of diagnostic has at most one link maker, and a later registration
replaces an earlier one. The replaced maker is no fallback: if the current one
fails, there is no link. A `LinkWriter` is a registry together with the choice
between embedded and plain pages, and it writes the queries down.
-/

namespace Remedy

/-- Link makers by the kind of diagnostic they serve. -/
structure LinkMakers where
  /-- The makers in order of registration. -/
  registered : Array LinkMaker := #[]
  /-- The position of the maker that serves a kind. -/
  routes : Diagnostic.Kind → Option Nat := fun _ => none

namespace LinkMakers

/-- Lead a kind to a position. The answer is the position that it led to before. -/
def setRoute (position : Nat) (kind : Diagnostic.Kind) :
    StateM (Diagnostic.Kind → Option Nat) (Option Nat) := fun routes =>
  (routes kind, fun other => if other = kind then some position else routes other)

/-- Lead kinds to a position, one after the other. The answer lists those that
had a route already when their turn came. -/
def setRoutes (position : Nat) :
    List Diagnostic.Kind → StateM (Diagnostic.Kind → Option Nat) (List Diagnostic.Kind)
  | [] => return []
  | kind :: rest => do
      let before ← setRoute position kind
      let replaced ← setRoutes position rest
      return if before.isSome then kind :: replaced else replaced

/-- Add a maker, which takes over all the kinds that it declares. -/
def register (r : LinkMakers) (m : LinkMaker) : LinkMakers where
  registered := r.registered.push m
  routes := ((setRoutes r.registered.size m.kinds).run r.routes).2

/-- The kinds whose route the registration of a maker replaces, one entry for
every replacement. -/
def replacedBy (r : LinkMakers) (m : LinkMaker) : List Diagnostic.Kind :=
  ((setRoutes r.registered.size m.kinds).run r.routes).1

/-- The registry of a list of makers. -/
def ofList (makers : List LinkMaker) : LinkMakers := makers.foldl register {}

/-- Some maker serves the kind. -/
def serves (r : LinkMakers) (kind : Diagnostic.Kind) : Bool := (r.routes kind).isSome

/-- The maker that serves a kind. -/
def makerFor? (r : LinkMakers) (kind : Diagnostic.Kind) : Option LinkMaker :=
  (r.routes kind).bind fun i => r.registered[i]?

/-- What the maker for a kind makes of a site, if there is one. -/
def attempt? (r : LinkMakers) (kind : Diagnostic.Kind) (site : Site) :
    Option (Except SiteError Query) :=
  (r.makerFor? kind).map fun m => m.query site

/-- The query for a kind at a site, if it can be made. -/
def query? (r : LinkMakers) (kind : Diagnostic.Kind) (site : Site) : Option Query :=
  (r.attempt? kind site).bind Except.toOption

/-- The number of kinds that have a maker. -/
def servedCount (r : LinkMakers) : Nat := Diagnostic.Kind.all.countP r.serves

/-- A one-line account of the registry for logs. -/
def describe (r : LinkMakers) : String :=
  let kinds := (Diagnostic.Kind.all.filter r.serves).map Diagnostic.Kind.title
  "LinkRegistry \x7b strategy_count: " ++ toString r.registered.size ++ ", kinds: ["
    ++ String.intercalate ", " kinds ++ "], .. \x7d"

/-- The registry with every built-in maker. -/
def builtin : LinkMakers :=
  ofList
    [ArrayCreation.missingSizeLink, ArrayCreation.missingOuterSizeLink,
      ArrayCreation.sizeAndElementsLink, MethodCall.unknownMethodLink,
      MethodCall.wrongArgumentsLink, MethodResult.missingResultLink, MethodCall.fromStaticLink,
      MethodCall.wrongReceiverLink, Naming.strayCallLink, VariableType.wrongValueLink,
      VariableType.unknownClassLink, VariableType.sizedVariableLink, Naming.unknownVariableLink,
      Naming.unassignedLink, Naming.unexpectedTokenLink]

end LinkMakers

/-- A registry with the choice of page form. -/
structure LinkWriter where
  makers : LinkMakers := LinkMakers.builtin
  /-- The pages are shown inside the editor. -/
  embedded : Bool

namespace LinkWriter

/-- The link for a kind at a site. -/
def link? (w : LinkWriter) (kind : Diagnostic.Kind) (site : Site) : Option CatalogueLink :=
  (w.makers.query? kind site).map fun query => query.link w.embedded

/-- The link for a closing brace that closes nothing. -/
def extraBraceLink? (w : LinkWriter) (text : String) : Option CatalogueLink :=
  (SourceText.extraBraceQuery? text).map fun query => query.link w.embedded

/-- The link for a malformed method header. -/
def methodHeaderLink? (w : LinkWriter) (text : String) : Option CatalogueLink :=
  (SourceText.methodHeaderQuery? text).map fun query => query.link w.embedded

end LinkWriter

end Remedy
