import Remedy.Link.Query
import Remedy.Proofs.Link.FormDecoding

/-!
# Reading a link back

A link is cut at its first question mark, at every ampersand and at the first
equals sign of each piece. Encoded values hold none of these characters, so the
only ones that could mislead the reader stand in the path or in the keys, which
come from the catalogue and not from the learner. For a `Separable` query the
link gives back the path and the parameters in order, and so it determines the
query.
-/

namespace Remedy

/-- Neither the path nor a key holds a character that ends it. -/
structure Query.Separable (q : Query) : Prop where
  path_free : '?' ∉ q.path.toList
  keys_free : ∀ parameter ∈ q.parameters,
    '&' ∉ parameter.1.toList ∧ '=' ∉ parameter.1.toList

/-- The parameters that a link shows, the embedding included. -/
def Query.shown (q : Query) (embedded : Bool) : List (String × String) :=
  q.parameters ++ embedding embedded

namespace CatalogueLink

/-! ## One parameter -/

/-- A parameter as a link writes it. -/
def writtenParameter (parameter : String × String) : String :=
  parameter.1 ++ "=" ++ FormEncoding.encode parameter.2

theorem toList_writtenParameter (parameter : String × String) :
    (writtenParameter parameter).toList =
      parameter.1.toList ++ '=' :: (FormEncoding.encode parameter.2).toList := by
  simp [writtenParameter]

theorem ampersand_notMem_writtenParameter {parameter : String × String}
    (h : '&' ∉ parameter.1.toList) : '&' ∉ (writtenParameter parameter).toList := by
  rw [toList_writtenParameter, List.mem_append, List.mem_cons]
  rintro (hkey | hsign | hvalue)
  · exact h hkey
  · exact absurd hsign (by decide)
  · exact absurd (FormEncoding.isWritten_of_mem_encode hvalue) (by decide)

theorem readParameter?_written {parameter : String × String} (h : '=' ∉ parameter.1.toList) :
    readParameter? (writtenParameter parameter).toList = some parameter := by
  have hcut : cutFirst '=' (writtenParameter parameter).toList =
      some (parameter.1.toList, (FormEncoding.encode parameter.2).toList) :=
    cutFirst_eq_some_iff.mpr ⟨toList_writtenParameter parameter, h⟩
  simp [readParameter?, hcut, FormEncoding.decode_encode]

theorem mapM_readParameter?_written {parameters : List (String × String)}
    (h : ∀ parameter ∈ parameters, '=' ∉ parameter.1.toList) :
    (parameters.map fun parameter => (writtenParameter parameter).toList).mapM readParameter? =
      some parameters := by
  induction parameters with
  | nil => rfl
  | cons parameter rest ih =>
    have htail := ih fun other hother => h other (List.mem_cons_of_mem _ hother)
    rw [List.map_cons, List.mapM_cons, readParameter?_written (h _ List.mem_cons_self), htail]
    rfl

/-! ## The whole link -/

/-- The text of a link in terms of the shown parameters. -/
theorem link_text (q : Query) (embedded : Bool) :
    (q.link embedded).text =
      if ((q.shown embedded).map writtenParameter).isEmpty then q.path
      else q.path ++ "?" ++ String.intercalate "&" ((q.shown embedded).map writtenParameter) :=
  rfl

theorem link_text_of_nil {q : Query} {embedded : Bool} (h : q.shown embedded = []) :
    (q.link embedded).text = q.path := by
  rw [link_text, h]
  rfl

theorem toList_link_text_of_ne_nil {q : Query} {embedded : Bool} (h : q.shown embedded ≠ []) :
    (q.link embedded).text.toList = q.path.toList ++ '?' :: ['&'].intercalate
      ((q.shown embedded).map fun parameter => (writtenParameter parameter).toList) := by
  have hne : ¬ ((q.shown embedded).map writtenParameter).isEmpty = true := by simpa using h
  rw [link_text, if_neg hne, String.toList_append, String.toList_append,
    String.toList_intercalate, List.map_map, List.append_assoc]
  rfl

/-- The parameter that asks for the embedded form does not mislead the reader
either. -/
theorem keys_free_shown {q : Query} (hq : q.Separable) (embedded : Bool) :
    ∀ parameter ∈ q.shown embedded,
      '&' ∉ parameter.1.toList ∧ '=' ∉ parameter.1.toList := by
  intro parameter hparameter
  rcases List.mem_append.mp hparameter with hown | hembedding
  · exact hq.keys_free parameter hown
  · cases embedded with
    | false => cases hembedding
    | true =>
      rw [List.mem_singleton.mp hembedding]
      decide

/-- A link of a separable query is read as the path and the shown parameters. -/
theorem read?_link_of_separable {q : Query} (hq : q.Separable) (embedded : Bool) :
    (q.link embedded).read? = some { path := q.path, parameters := q.shown embedded } := by
  by_cases h : q.shown embedded = []
  · have htext := link_text_of_nil h
    have hcut := cutFirst_eq_none_iff.mpr hq.path_free
    simp [read?, htext, hcut, h]
  · have hkeys := keys_free_shown hq embedded
    have hcut := cutFirst_eq_some_iff.mpr ⟨toList_link_text_of_ne_nil h, hq.path_free⟩
    have hfree : ∀ piece ∈ (q.shown embedded).map fun parameter =>
        (writtenParameter parameter).toList, '&' ∉ piece := by
      intro piece hpiece
      obtain ⟨parameter, hparameter, rfl⟩ := List.mem_map.mp hpiece
      exact ampersand_notMem_writtenParameter (hkeys parameter hparameter).1
    have hpieces := cutAll_intercalate (by simpa using h) hfree
    have hread := mapM_readParameter?_written fun parameter hparameter =>
      (hkeys parameter hparameter).2
    simp [read?, hcut, hpieces, hread]

/-- **Round trip.** For a path without a question mark and keys without
ampersands and equals signs, whatever the values are, a link is read as the path
and the ordered parameters, followed by the embedding exactly if it is asked
for. So links that agree come from queries with the same path that show the same
parameters, and from one and the same query if both or neither are embedded. -/
theorem read?_link (q : Query) (hq : q.Separable) (embedded : Bool) :
    (q.link embedded).read? =
        some { path := q.path
               parameters := q.parameters ++ if embedded then [("embed", "true")] else [] } ∧
      (∀ (other : Query) (embedded' : Bool), other.Separable →
        other.link embedded' = q.link embedded →
          other.path = q.path ∧ other.shown embedded' = q.shown embedded) ∧
      ∀ other : Query, other.Separable → other.link embedded = q.link embedded → other = q := by
  have hagree : ∀ (other : Query) (embedded' : Bool), other.Separable →
      other.link embedded' = q.link embedded →
        other.path = q.path ∧ other.shown embedded' = q.shown embedded := by
    intro other embedded' hother hlink
    have hread := read?_link_of_separable hother embedded'
    rw [hlink, read?_link_of_separable hq embedded] at hread
    simp only [Option.some.injEq, Query.mk.injEq] at hread
    exact ⟨hread.1.symm, hread.2.symm⟩
  refine ⟨read?_link_of_separable hq embedded, hagree, ?_⟩
  intro other hother hlink
  obtain ⟨hpath, hshown⟩ := hagree other embedded hother hlink
  have hparameters : other.parameters = q.parameters := List.append_cancel_right hshown
  obtain ⟨path, parameters⟩ := other
  obtain rfl : path = q.path := hpath
  obtain rfl : parameters = q.parameters := hparameters
  rfl

/-- A value may hold every character that structures a link. -/
theorem read?_link_structuring_value :
    (({ path := "typemismatch", parameters := [("varname", "a&b=c%d+e#?
 é")] } : Query).link
        true).read? =
      some { path := "typemismatch"
             parameters := [("varname", "a&b=c%d+e#?
 é"), ("embed", "true")] } :=
  (read?_link { path := "typemismatch", parameters := [("varname", "a&b=c%d+e#?
 é")] }
    ⟨by decide, by decide⟩ true).1

end CatalogueLink

end Remedy
