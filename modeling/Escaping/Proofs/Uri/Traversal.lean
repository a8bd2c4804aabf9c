import Escaping.Proofs.Uri.Components
import Escaping.Proofs.Uri.RoundTrip

/-!
The order in which the components of a reference are visited, and what comes of it. A reference is
its shape, which says what is present, and the list of its contents. Canonicalizing goes along that
list until the first failure, and keeps the shape of the components; whether it also keeps the shape
of the text is a matter of what the components hold afterwards.
-/

namespace Escaping

def QueryParameter.contents (parameter : QueryParameter) : List Text :=
  parameter.name :: parameter.value.toList

theorem QueryParameter.contents_map (change : Text → Text) (parameter : QueryParameter) :
    (parameter.map change).contents = parameter.contents.map change := by
  rw [contents, contents, QueryParameter.map, List.map_cons, Option.toList_map]

namespace Uri

/-- The components that are present, in the order in which they are visited: the names and values
of the query, and then the others from left to right. -/
def contents (uri : Uri) : List Text :=
  (uri.query.getD []).flatMap QueryParameter.contents ++ uri.scheme.toList ++ uri.userInfo.toList
    ++ uri.host.toList ++ uri.port.toList ++ [uri.path] ++ uri.fragment.toList

/-- The components with nothing in them: which of them are present, how many parameters there are,
and which of these have a value. -/
def shape (uri : Uri) : Uri :=
  uri.map fun _ => []

section Shape

variable {change : Text → Text}

theorem contents_map (uri : Uri) : (uri.map change).contents = uri.contents.map change := by
  have query : ((uri.map change).query.getD []).flatMap QueryParameter.contents
      = ((uri.query.getD []).flatMap QueryParameter.contents).map change := by
    unfold map
    cases uri.query with
    | none => rfl
    | some parameters =>
        simp only [Option.map_some, Option.getD_some, List.flatMap_map, List.map_flatMap,
          QueryParameter.contents_map]
  unfold contents
  rw [query]
  simp only [map, List.map_append, Option.toList_map, List.map_cons, List.map_nil]

theorem shape_map (uri : Uri) : (uri.map change).shape = uri.shape := by
  have each : QueryParameter.map (fun _ => []) ∘ QueryParameter.map change
      = QueryParameter.map fun _ => [] := by
    funext parameter
    simp only [Function.comp_def, QueryParameter.map, Option.map_map]
  have query : List.map (QueryParameter.map fun _ => []) ∘ List.map (QueryParameter.map change)
      = List.map (QueryParameter.map fun _ => []) := by
    funext parameters
    rw [Function.comp_apply, List.map_map, each]
  unfold shape map
  simp only [Option.map_map, query, Function.comp_def]

/-- A part at the start of two lists of contents is the same one where it has the same shape. -/
theorem part_inj {part other : Option Text} {rest others : List Text}
    (shape : part.map (fun _ => ([] : Text)) = other.map fun _ => [])
    (contents : part.toList ++ rest = other.toList ++ others) : part = other ∧ rest = others := by
  cases part with
  | none =>
      cases other with
      | none => exact ⟨rfl, contents⟩
      | some other => cases shape
  | some part =>
      cases other with
      | none => cases shape
      | some other =>
          cases contents
          exact ⟨rfl, rfl⟩

theorem parameters_inj {parameters following : List QueryParameter} {rest others : List Text}
    (shape : parameters.map (QueryParameter.map fun _ => [])
      = following.map (QueryParameter.map fun _ => []))
    (contents : parameters.flatMap QueryParameter.contents ++ rest
      = following.flatMap QueryParameter.contents ++ others) :
    parameters = following ∧ rest = others := by
  induction parameters generalizing following with
  | nil =>
      cases following with
      | nil => exact ⟨rfl, contents⟩
      | cons other following => cases shape
  | cons parameter parameters induction =>
      cases following with
      | nil => cases shape
      | cons other following =>
          rcases parameter with ⟨name, value⟩
          rcases other with ⟨otherName, otherValue⟩
          rcases List.cons_eq_cons.mp shape with ⟨first, later⟩
          simp only [List.flatMap_cons, QueryParameter.contents, List.cons_append,
            List.append_assoc, List.cons_eq_cons] at contents
          rcases contents with ⟨sameName, contents⟩
          have valueShape : value.map (fun _ => ([] : Text)) = otherValue.map fun _ => [] :=
            (QueryParameter.mk.inj first).2
          rcases part_inj valueShape contents with ⟨sameValue, contents⟩
          rcases induction later contents with ⟨same, rest⟩
          exact ⟨by rw [sameName, sameValue, same], rest⟩

theorem query_inj {query other : Option (List QueryParameter)} {rest others : List Text}
    (shape : query.map (List.map (QueryParameter.map fun _ => []))
      = other.map (List.map (QueryParameter.map fun _ => [])))
    (contents : (query.getD []).flatMap QueryParameter.contents ++ rest
      = (other.getD []).flatMap QueryParameter.contents ++ others) :
    query = other ∧ rest = others := by
  cases query with
  | none =>
      cases other with
      | none => exact ⟨rfl, contents⟩
      | some other => cases shape
  | some parameters =>
      cases other with
      | none => cases shape
      | some following =>
          rcases parameters_inj (Option.some.inj shape) contents with ⟨same, rest⟩
          exact ⟨congrArg some same, rest⟩

/-- A reference is no more than its shape and its contents. -/
theorem eq_of_shape_of_contents {uri other : Uri} (shape : uri.shape = other.shape)
    (contents : uri.contents = other.contents) : uri = other := by
  rcases uri with ⟨scheme, userInfo, host, port, path, query, fragment⟩
  rcases other with
    ⟨otherScheme, otherUserInfo, otherHost, otherPort, otherPath, otherQuery, otherFragment⟩
  simp only [Uri.shape, map, Uri.mk.injEq, true_and] at shape
  rcases shape with ⟨inScheme, inUserInfo, inHost, inPort, inQuery, inFragment⟩
  simp only [Uri.contents, List.append_assoc] at contents
  rcases query_inj inQuery contents with ⟨rfl, afterQuery⟩
  rcases part_inj inScheme afterQuery with ⟨rfl, afterScheme⟩
  rcases part_inj inUserInfo afterScheme with ⟨rfl, afterUserInfo⟩
  rcases part_inj inHost afterUserInfo with ⟨rfl, afterHost⟩
  rcases part_inj inPort afterHost with ⟨rfl, afterPort⟩
  rcases List.cons_eq_cons.mp afterPort with ⟨rfl, afterPath⟩
  have last : fragment.toList ++ [] = otherFragment.toList ++ ([] : List Text) :=
    congrArg (· ++ []) afterPath
  rcases part_inj inFragment last with ⟨rfl, _⟩
  rfl

/-- The changed components are the only ones of the same shape that hold the changed contents. -/
theorem eq_map_iff {uri other : Uri} :
    other = uri.map change
      ↔ other.shape = uri.shape ∧ other.contents = uri.contents.map change := by
  constructor
  · intro same
    subst same
    exact ⟨shape_map uri, contents_map uri⟩
  · intro same
    rcases same with ⟨shape, contents⟩
    exact eq_of_shape_of_contents (shape.trans (shape_map uri).symm)
      (contents.trans (contents_map uri).symm)

theorem map_eq_self {uri : Uri} (fixed : ∀ part ∈ uri.contents, change part = part) :
    uri.map change = uri := by
  have same : uri.contents.map change = uri.contents :=
    (List.map_congr_left fixed).trans (List.map_id' _)
  exact (eq_map_iff.mpr ⟨rfl, same.symm⟩).symm

end Shape

section Visiting

variable {Effect : Type → Type} [Monad Effect]

/-- An operation applied to one text after the other for its effect. -/
def visit (operation : Text → Effect Text) : List Text → Effect Unit
  | [] => pure ()
  | part :: rest => do
      let _ ← operation part
      visit operation rest

variable [LawfulMonad Effect] {operation : Text → Effect Text} {image : Text → Text}

theorem visit_append (first second : List Text) :
    visit operation (first ++ second)
      = (visit operation first >>= fun _ => visit operation second) := by
  induction first with
  | nil => simp only [List.nil_append, visit, pure_bind]
  | cons part rest induction => simp only [List.cons_append, visit, induction, bind_assoc]

/-- An operation that has no other result for a text than its image. -/
def Determined (operation : Text → Effect Text) (image : Text → Text) : Prop :=
  ∀ part, operation part = (operation part >>= fun _ => pure (image part))

variable (determined : Determined operation image)
include determined

theorem onPart_eq_visit (part : Option Text) :
    onPart operation part = (visit operation part.toList >>= fun _ => pure (part.map image)) := by
  cases part with
  | none => simp only [onPart, Option.toList_none, visit, pure_bind, Option.map_none]
  | some part =>
      rw [onPart, determined part]
      simp only [Option.toList_some, visit, bind_assoc, pure_bind, Option.map_some]

theorem onParameters_eq_visit (parameters : List QueryParameter) :
    onParameters operation parameters
      = (visit operation (parameters.flatMap QueryParameter.contents) >>= fun _ =>
          pure (parameters.map (QueryParameter.map image))) := by
  induction parameters with
  | nil => simp only [onParameters, List.flatMap_nil, visit, pure_bind, List.map_nil]
  | cons parameter rest induction =>
      rw [onParameters, determined parameter.name, onPart_eq_visit determined, induction]
      simp only [List.flatMap_cons, QueryParameter.contents, List.cons_append, visit, visit_append,
        bind_assoc, pure_bind, List.map_cons, QueryParameter.map]

theorem onQuery_eq_visit (query : Option (List QueryParameter)) :
    onQuery operation query
      = (visit operation ((query.getD []).flatMap QueryParameter.contents) >>= fun _ =>
          pure (query.map (List.map (QueryParameter.map image)))) := by
  cases query with
  | none =>
      simp only [onQuery, Option.getD_none, List.flatMap_nil, visit, pure_bind, Option.map_none]
  | some parameters =>
      rw [onQuery, onParameters_eq_visit determined]
      simp only [Option.getD_some, bind_assoc, pure_bind, Option.map_some]

/-- The components are visited in the order of the contents, each of them once, and each is replaced
by its image. -/
theorem onComponents_eq_visit (uri : Uri) :
    onComponents operation uri
      = (visit operation uri.contents >>= fun _ => pure (uri.map image)) := by
  rw [onComponents, determined uri.path]
  simp only [onQuery_eq_visit determined, onPart_eq_visit determined, contents, visit_append, visit,
    map, bind_assoc, pure_bind]

end Visiting

section Noting

variable {Failure : Type} {operation : Text → Except Failure Text} {image : Text → Text}
  {failure : Failure} {part result : Text} {before after parts : List Text}

/-- An operation that also notes the texts it is applied to. -/
def noting (operation : Text → Except Failure Text) (part : Text) :
    ExceptT Failure (StateM (List Text)) Text := do
  modify (· ++ [part])
  ExceptT.mk (pure (operation part))

/-- The outcome of canonicalizing a reference with an operation, and the texts that the operation is
applied to, in this order. -/
def canonicalizeNoting (operation : Text → Except Failure Text) (text : Text) :
    Except Failure Text × List Text :=
  (canonicalize (noting operation) text).run.run []

/-- What an operation returns for a text. Where it fails nothing depends on it. -/
def imageUnder (operation : Text → Except Failure Text) (part : Text) : Text :=
  match operation part with
  | .ok result => result
  | .error _ => []

theorem imageUnder_of_ok (performed : operation part = .ok result) :
    imageUnder operation part = result := by
  rw [imageUnder, performed]

theorem determined_noting : Determined (noting operation) (imageUnder operation) := by
  intro part
  cases performed : operation part with
  | error failure =>
      rw [noting, performed]
      rfl
  | ok result =>
      rw [noting, performed, imageUnder_of_ok performed]
      rfl

/-- A text that does not fail is noted, and the visit goes on behind it. -/
theorem visit_noting_cons_of_ok (noted : List Text) (performed : operation part = .ok result) :
    (visit (noting operation) (part :: parts)).run.run noted
      = (visit (noting operation) parts).run.run (noted ++ [part]) := by
  rw [visit, noting, performed]
  rfl

/-- A text that fails is noted too, and ends the visit. -/
theorem visit_noting_cons_of_error (noted : List Text) (failed : operation part = .error failure) :
    (visit (noting operation) (part :: parts)).run.run noted
      = (.error failure, noted ++ [part]) := by
  rw [visit, noting, failed]
  rfl

theorem visit_noting_append (noted : List Text)
    (performed : ∀ part ∈ before, ∃ result, operation part = .ok result) :
    (visit (noting operation) (before ++ parts)).run.run noted
      = (visit (noting operation) parts).run.run (noted ++ before) := by
  induction before generalizing noted with
  | nil => rw [List.nil_append, List.append_nil]
  | cons part rest induction =>
      rcases performed part List.mem_cons_self with ⟨result, returned⟩
      have following := induction (noted ++ [part]) fun other member =>
        performed other (List.mem_cons_of_mem _ member)
      rw [List.cons_append, visit_noting_cons_of_ok noted returned, following, List.append_assoc,
        List.singleton_append]

/-- Either no text of a list fails, or there is a first one that does. -/
theorem performed_or_failed (operation : Text → Except Failure Text) (parts : List Text) :
    (∀ part ∈ parts, ∃ result, operation part = .ok result)
      ∨ ∃ before part after failure, parts = before ++ part :: after
        ∧ (∀ earlier ∈ before, ∃ result, operation earlier = .ok result)
        ∧ operation part = .error failure := by
  induction parts with
  | nil => exact .inl (List.forall_mem_nil _)
  | cons part rest induction =>
      cases performed : operation part with
      | error failure =>
          exact .inr ⟨[], part, rest, failure, rfl, List.forall_mem_nil _, performed⟩
      | ok result =>
          rcases induction with all | ⟨before, failing, after, failure, rfl, earlier, failed⟩
          · exact .inl (List.forall_mem_cons.mpr ⟨⟨result, performed⟩, all⟩)
          · exact .inr ⟨part :: before, failing, after, failure, rfl,
              List.forall_mem_cons.mpr ⟨⟨result, performed⟩, earlier⟩, failed⟩

/-- Canonicalizing is a visit of the contents, with the images put together at its end. -/
theorem canonicalizeNoting_eq (operation : Text → Except Failure Text) (text : Text) :
    canonicalizeNoting operation text
      = ((visit (noting operation) (ofText text).contents).run.run []).map
          (Except.map fun _ => ((ofText text).map (imageUnder operation)).toText) id := by
  rw [canonicalizeNoting, canonicalize, onComponents_eq_visit determined_noting, bind_assoc]
  generalize visit (noting operation) (ofText text).contents = visited
  simp only [ExceptT.run_bind, StateT.run_bind, pure_bind]
  rcases visited.run.run [] with ⟨failure | _, noted⟩
  · rfl
  · rfl

theorem canonicalizeNoting_of_ok {text : Text}
    (performed : ∀ part ∈ (ofText text).contents, ∃ result, operation part = .ok result) :
    canonicalizeNoting operation text
      = (.ok ((ofText text).map (imageUnder operation)).toText, (ofText text).contents) := by
  have visited : (visit (noting operation) ((ofText text).contents ++ [])).run.run [] = _ :=
    visit_noting_append [] performed
  rw [List.append_nil] at visited
  rw [canonicalizeNoting_eq, visited]
  rfl

theorem canonicalizeNoting_of_error {text : Text}
    (contents : (ofText text).contents = before ++ part :: after)
    (performed : ∀ earlier ∈ before, ∃ result, operation earlier = .ok result)
    (failed : operation part = .error failure) :
    canonicalizeNoting operation text = (.error failure, before ++ [part]) := by
  rw [canonicalizeNoting_eq, contents, visit_noting_append [] performed,
    visit_noting_cons_of_error _ failed]
  rfl

/-- An operation is applied to each component that is present, once and in the order of the
contents, up to the first one that fails, whose failure is the outcome. Where none fails, each
component has been replaced by its image: those are the components of the same shape that hold the
images, and the text put together from them splits into them exactly where any text does, that is
where they are well-formed in their positions. An operation that fixes all components fixes the
reference. -/
theorem canonicalize_in_order (operation : Text → Except Failure Text) (text : Text) :
    ((∃ image : Text → Text, ∃ replaced : Uri,
          (∀ part ∈ (ofText text).contents, operation part = .ok (image part))
          ∧ replaced = (ofText text).map image
          ∧ (∀ other : Uri, other = replaced ↔ other.shape = (ofText text).shape
            ∧ other.contents = (ofText text).contents.map image)
          ∧ canonicalizeNoting operation text = (.ok replaced.toText, (ofText text).contents)
          ∧ (ofText replaced.toText = replaced ↔ ∃ other, ofText other = replaced)
          ∧ (ofText replaced.toText = replaced ↔ replaced.WellFormed))
        ∨ ∃ before part after failure, (ofText text).contents = before ++ part :: after
          ∧ (∀ earlier ∈ before, ∃ result, operation earlier = .ok result)
          ∧ operation part = .error failure
          ∧ canonicalizeNoting operation text = (.error failure, before ++ [part]))
      ∧ ((∀ part ∈ (ofText text).contents, operation part = .ok part) →
          canonicalizeNoting operation text = (.ok text, (ofText text).contents)) := by
  constructor
  · rcases performed_or_failed operation (ofText text).contents with
      performed | ⟨before, part, after, failure, contents, performed, failed⟩
    · refine .inl ⟨imageUnder operation, _, ?_, rfl, fun other => eq_map_iff,
        canonicalizeNoting_of_ok performed, ?_, ofText_toText_eq_self_iff⟩
      · intro part member
        rcases performed part member with ⟨result, returned⟩
        rw [returned, imageUnder_of_ok returned]
      · rw [ofText_toText_eq_self_iff, exists_ofText_eq_iff]
    · exact .inr ⟨before, part, after, failure, contents, performed, failed,
        canonicalizeNoting_of_error contents performed failed⟩
  · intro fixed
    have whole : (ofText text).toText = text := (ofText_eq_iff.mp rfl).1.symm
    have unchanged : (ofText text).map (imageUnder operation) = ofText text :=
      map_eq_self fun part member => imageUnder_of_ok (fixed part member)
    rw [canonicalizeNoting_of_ok fun part member => ⟨part, fixed part member⟩, unchanged, whole]

/-- A path that came to hold a question mark ends before it. -/
example : ofText (toText ⟨none, none, none, none, Text.ofString "/?", none, none⟩)
    = ⟨none, none, none, none, Text.ofString "/", some [⟨[], none⟩], none⟩ := by
  decide +kernel

end Noting

end Uri

end Escaping
