import Remedy.Random.Keystream
import Remedy.Registry.Explainers
import Remedy.Registry.LinkMakers
import Remedy.Settings
import Remedy.Syntax.Covering

/-!
# The engine

An engine answers diagnostics over a syntax tree with hints and a reference
link. Its demo values come from a source that is made from the seed in its
settings. Without a seed the caller supplies a source.

In a batch every diagnostic has a source of its own: item `i` uses the seed plus
`i`, modulo `2 ^ 64`. So no diagnostic affects another one, and the order in
which they are worked on does not matter.
-/

namespace Remedy

/-- Random sources that can be started from a seed. -/
class SeededSource (σ : Type) extends RandomSource σ where
  /-- The source that belongs to a seed. -/
  ofSeed : UInt64 → σ

instance : SeededSource Keystream where
  ofSeed := Keystream.ofSeed

/-- Everything that is shown for one diagnostic. -/
structure Help where
  /-- The hints in the order in which they are shown. -/
  hints : List Hint := []
  link : Option CatalogueLink := none
deriving DecidableEq

/-- There is nothing to show. -/
def Help.isEmpty (h : Help) : Bool := h.hints.isEmpty && h.link.isNone

/-- Explainers and link makers with their settings. -/
structure Engine (σ : Type) where
  settings : Settings
  explainers : Explainers σ
  linkMakers : LinkMakers

namespace Engine

variable {σ : Type} [SeededSource σ]

/-- The engine with everything that is built in. -/
def builtin (settings : Settings) : Engine σ where
  settings
  explainers := Explainers.builtin
  linkMakers := LinkMakers.builtin

/-- The writer of the engine's links. -/
def linkWriter (e : Engine σ) : LinkWriter where
  makers := e.linkMakers
  embedded := e.settings.embedded

/-- The source for item `i` of a batch: the one of the seed plus `i`, or the
given one if there is no seed. -/
def source (e : Engine σ) (otherwise : σ) (i : Nat) : σ :=
  match e.settings.seed with
  | some seed => SeededSource.ofSeed (seed + UInt64.ofNat i)
  | none => otherwise

/-! ## One kind at one site -/

/-- The hints for a kind at a site, drawn from the source at hand. -/
def drawHints (e : Engine σ) (kind : Diagnostic.Kind) (site : Site) : Draw σ (List Hint) :=
  e.explainers.hints kind site

/-- The hints for a kind at a site, drawn from a fresh source. -/
def hints (e : Engine σ) (otherwise : σ) (kind : Diagnostic.Kind) (site : Site) : List Hint :=
  (e.drawHints kind site (e.source otherwise 0)).1

/-- The link for a kind at a site. -/
def link? (e : Engine σ) (kind : Diagnostic.Kind) (site : Site) : Option CatalogueLink :=
  e.linkWriter.link? kind site

/-! ## Diagnostics -/

/-- Help for a diagnostic at the node that its range belongs to. If there is no
such node, there is nothing to show, and nothing is drawn. -/
def drawHelp (e : Engine σ) (tree : Tree) (d : Diagnostic) : Draw σ Help :=
  match tree.covering d.span with
  | none => return {}
  | some anchor => do
      let site : Site := { tree, anchor, arguments := d.arguments }
      let hints ← e.drawHints d.kind site
      return { hints, link := e.link? d.kind site }

/-- Help for one diagnostic. -/
def help (e : Engine σ) (otherwise : σ) (tree : Tree) (d : Diagnostic) : Help :=
  (e.drawHelp tree d (e.source otherwise 0)).1

/-- Help for every diagnostic of a batch, in order. -/
def helpAll (e : Engine σ) (otherwise : Nat → σ) (tree : Tree) (ds : List Diagnostic) :
    List Help :=
  ds.zipIdx.map fun (d, i) => (e.drawHelp tree d (e.source (otherwise i) i)).1

end Engine

end Remedy
