import SemanticLayer.Proofs.Response.Visibility

/-!
# Rows of a response do not depend on each other

The first row fixes how all others are shaped: the members are resolved from it, and every row must
have its columns. Beyond this no row has a part in what becomes of another. There is one function,
fixed by the first row, that shapes every row with these columns, whatever stands before and behind
it (`Context.exists_shapesBy`).

So a result of any length is known from the results of at most two rows (`samples`): the first row
alone, and each other row next to the first. `Context.respond_samples` says that it has a response
exactly if all of these have, that its rows are theirs, and that otherwise its error is that of the
first of these that has none, at its place. Part of a result has part of the response.
-/

namespace SemanticLayer.Response

open Query

/-! ### Rows of both shapes -/

/-- A row of a response in either shape. -/
inductive ShapedRow where
  /-- The values in the order of the members. -/
  | values (values : List WireValue)
  /-- The values by member. -/
  | wire (row : WireRow)
  deriving DecidableEq

namespace Body

/-- The members, if the response lists them apart from its rows. -/
def members? : Body → Option (List String)
  | compact members _ => some members
  | vanilla _ => none

/-- The rows of a response, in order. -/
def rows : Body → List ShapedRow
  | compact _ rows => rows.map .values
  | vanilla rows => rows.map .wire

/-- The response with the first so many rows. -/
def take (count : Nat) : Body → Body
  | compact members rows => compact members (rows.take count)
  | vanilla rows => vanilla (rows.take count)

@[simp] theorem members?_take (count : Nat) (body : Body) :
    (body.take count).members? = body.members? := by
  cases body <;> rfl

@[simp] theorem rows_take (count : Nat) (body : Body) :
    (body.take count).rows = body.rows.take count := by
  cases body with
  | compact members rows => exact List.map_take
  | vanilla rows => exact List.map_take

/-- A response is its members and its rows. -/
theorem eq_of_rows {body other : Body} (hmembers : body.members? = other.members?)
    (hrows : body.rows = other.rows) : body = other := by
  cases body with
  | compact members rows =>
    cases other with
    | compact others otherRows =>
      obtain rfl := Option.some.inj hmembers
      exact congrArg _ (List.map_injective_iff.2 (fun _ _ ↦ ShapedRow.values.inj) hrows)
    | vanilla otherRows => cases hmembers
  | vanilla rows =>
    cases other with
    | compact others otherRows => cases hmembers
    | vanilla otherRows =>
      exact congrArg _ (List.map_injective_iff.2 (fun _ _ ↦ ShapedRow.wire.inj) hrows)

end Body

/-- The error at another row of the result. Only one error says which row it is about. -/
def ResponseError.atRow (index : Nat) : ResponseError → ResponseError
  | inconsistentRow _ column => inconsistentRow index column
  | error => error

/-- The first row alone, and each other row next to it. -/
def samples (first : RawRow) (rows : List RawRow) : List (List RawRow) :=
  [first] :: rows.map fun row ↦ [first, row]

theorem exists_eq_cons_of_mem_samples {first : RawRow} {rows sample : List RawRow}
    (h : sample ∈ samples first rows) : ∃ others, sample = first :: others := by
  rcases List.mem_cons.1 h with rfl | hrow
  · exact ⟨[], rfl⟩
  · obtain ⟨row, -, rfl⟩ := List.mem_map.1 hrow
    exact ⟨[row], rfl⟩

/-- The last row of a sample is the row that it is a sample of. -/
theorem getLast?_of_samples {first : RawRow} {rows sample : List RawRow} {index : Nat}
    (h : (samples first rows)[index]? = some sample) :
    sample.getLast? = (first :: rows)[index]? := by
  cases index with
  | zero =>
    obtain rfl := Option.some.inj h
    rfl
  | succ index =>
    rw [samples, List.getElem?_cons_succ, List.getElem?_map] at h
    obtain ⟨row, hrow, rfl⟩ := Option.map_eq_some_iff.1 h
    exact hrow.symm

namespace Context

variable {context : Context}

/-! ### One function for all rows -/

theorem shapeRows_eq_map {α : Type} (context : Context) {columns : List String}
    {shape : RawRow → Except ResponseError α} {shaped : RawRow → α}
    (hshape : ∀ row, SameColumns columns row → shape row = .ok (shaped row))
    {rows : List RawRow} (hrows : ∀ row ∈ rows, SameColumns columns row) (index : Nat) :
    context.shapeRows columns shape index rows = .ok (rows.map shaped) := by
  have hshows : ∀ row, SameColumns columns row →
      ∃ result, shape row = .ok result ∧ shaped row = result :=
    fun row hsame ↦ ⟨_, hshape row hsame, rfl⟩
  obtain ⟨results, hok, hresults⟩ := shapeRows_of_same context hshows hrows index
  rw [← List.forall₂_map_left_iff, List.forall₂_eq_eq_eq] at hresults
  rw [hok, hresults]

/-- Behind a first row, rows with its columns are shaped one by one by a function, and the members
do not depend on them. -/
def ShapesBy (context : Context) (shape : Shape) (first : RawRow) (members? : Option (List String))
    (shaped : RawRow → ShapedRow) : Prop :=
  ∀ rows, (∀ row ∈ rows, SameColumns first.keys row) →
    ∃ body, context.respond shape (first :: rows) = .ok body ∧ body.members? = members? ∧
      body.rows = (first :: rows).map shaped

/-- **The first row fixes how all others are shaped.** -/
theorem exists_shapesBy (hmode : context.Configured) {first : RawRow}
    (hfirst : context.Resolves first.keys) (shape : Shape) :
    ∃ members? shaped, context.ShapesBy shape first members? shaped := by
  obtain ⟨members, label, hmembers, hcompact, -⟩ := exists_members hmode hfirst []
  have hfixed : ∀ rows, context.members (first :: rows) = .ok members := fun _ ↦ hmembers
  have hrespond := fun rows ↦ respond_of_members hmode (hfixed rows) shape
  have hall : ∀ {rows : List RawRow}, (∀ row ∈ rows, SameColumns first.keys row) →
      ∀ row ∈ first :: rows, SameColumns first.keys row :=
    fun hrows ↦ List.forall_mem_cons.2 ⟨fun column ↦ Iff.rfl, hrows⟩
  cases shape with
  | compact =>
    refine ⟨some members.keys, fun row ↦ .values (members.toList.map (·.2.value label row)),
      fun rows hrows ↦ ?_⟩
    have hshaped := shapeRows_eq_map context (fun row _ ↦ hcompact row) (hall hrows) 0
    refine ⟨_, (hrespond rows).trans (congrArg (Body.compact members.keys <$> ·) hshaped), rfl, ?_⟩
    exact List.map_map
  | vanilla =>
    have hvanilla : ∀ row, SameColumns first.keys row →
        context.vanillaRow row = .ok ((context.vanillaRow row).toOption.getD .empty) := by
      intro row hsame
      obtain ⟨wire, hwire, -⟩ := exists_vanillaRow hmode (hfirst.of_same hsame)
      rw [hwire]
      rfl
    refine ⟨none, fun row ↦ .wire ((context.vanillaRow row).toOption.getD .empty),
      fun rows hrows ↦ ?_⟩
    have hshaped := shapeRows_eq_map context hvanilla (hall hrows) 0
    refine ⟨_, (hrespond rows).trans (congrArg (Body.vanilla <$> ·) hshaped), rfl, ?_⟩
    exact List.map_map

theorem exists_respond_cons_iff {shape : Shape} {first : RawRow} {rows : List RawRow} :
    (∃ body, context.respond shape (first :: rows) = .ok body) ↔
      context.Configured ∧ context.Resolves first.keys ∧
        ∀ row ∈ rows, SameColumns first.keys row := by
  constructor
  · rintro ⟨body, hbody⟩
    obtain ⟨hmode, hrows⟩ := consistent_of_respond hbody
    cases hrows with
    | cons hfirst hsame => exact ⟨hmode, hfirst, hsame⟩
  · rintro ⟨hmode, hfirst, hsame⟩
    obtain ⟨body, hbody, -⟩ := exists_respond_of_consistent hmode (.cons hfirst hsame) shape
    exact ⟨body, hbody⟩

/-! ### Samples -/

/-- A result has a response exactly if all of its samples have. -/
theorem exists_respond_iff_samples {shape : Shape} {first : RawRow} {rows : List RawRow} :
    (∃ body, context.respond shape (first :: rows) = .ok body) ↔
      ∀ sample ∈ samples first rows, ∃ part, context.respond shape sample = .ok part := by
  rw [samples, List.forall_mem_cons, List.forall_mem_map]
  simp only [exists_respond_cons_iff, List.forall_mem_singleton]
  constructor
  · rintro ⟨hmode, hfirst, hsame⟩
    exact ⟨⟨hmode, hfirst, fun row hrow ↦ absurd hrow List.not_mem_nil⟩,
      fun row hrow ↦ ⟨hmode, hfirst, hsame row hrow⟩⟩
  · rintro ⟨⟨hmode, hfirst, -⟩, hrows⟩
    exact ⟨hmode, hfirst, fun row hrow ↦ (hrows row hrow).2.2⟩

theorem ModeFault.atRow_eq {error : ResponseError} (h : context.ModeFault error) (index : Nat) :
    error.atRow index = error := by
  cases h <;> rfl

/-- A fault of a row is the same wherever the row stands, up to its place. -/
theorem RowFault.atRow {columns : List String} {index : Nat} {row : RawRow} {error : ResponseError}
    (h : context.RowFault columns index row error) (place : Nat) :
    context.RowFault columns place row (error.atRow place) := by
  cases h with
  | hidden hcolumn hhidden => exact .hidden hcolumn hhidden
  | surplus hcolumn hvisible => exact .surplus hcolumn hvisible
  | missing hrow hcolumn => exact .missing hrow hcolumn

/-- What is wrong with the first row alone is wrong with the result. -/
theorem respond_of_respond_singleton {shape : Shape} {first : RawRow} {fault : ResponseError}
    (h : context.respond shape [first] = .error fault) (rows : List RawRow) :
    context.respond shape (first :: rows) = .error (fault.atRow 0) := by
  have hfault : context.FirstFault (first :: rows) (fault.atRow 0) := by
    generalize hsample : [first] = sample at h
    cases firstFault_of_respond h with
    | mode hfault => exact .mode ((hfault.atRow_eq 0).symm ▸ hfault)
    | column hmode hcolumn =>
      obtain ⟨rfl, -⟩ := List.cons.inj hsample
      exact .column hmode hcolumn
    | blending hvisible hmember hgives =>
      obtain ⟨rfl, -⟩ := List.cons.inj hsample
      exact .blending hvisible hmember hgives
    | row =>
      obtain ⟨-, hnil⟩ := List.cons.inj hsample
      exact absurd hnil.symm (List.append_ne_nil_of_right_ne_nil _ (List.cons_ne_nil _ _))
  exact respond_of_firstFault hfault shape

/-- The first sample without a response is where the result fails. -/
theorem respond_of_firstFailing {shape : Shape} {first : RawRow} {rows : List RawRow}
    {before after : List (List RawRow)} {sample : List RawRow} {fault : ResponseError}
    (hsamples : samples first rows = before ++ sample :: after)
    (hbefore : ∀ other ∈ before, ∃ part, context.respond shape other = .ok part)
    (hfault : context.respond shape sample = .error fault) :
    context.respond shape (first :: rows) = .error (fault.atRow before.length) := by
  rcases before with - | ⟨other, before⟩
  · obtain ⟨rfl, -⟩ := List.cons.inj hsamples
    exact respond_of_respond_singleton hfault rows
  · obtain ⟨rfl, hrest⟩ := List.cons.inj hsamples
    obtain ⟨passed, failing, rfl, rfl, hfailing⟩ := List.map_eq_append_iff.1 hrest
    obtain ⟨row, behind, rfl, rfl, -⟩ := List.map_eq_cons_iff.1 hfailing
    obtain ⟨hsingle, hpassed⟩ := List.forall_mem_cons.1 hbefore
    obtain ⟨hmode, hfirst, -⟩ := exists_respond_cons_iff.1 hsingle
    have hsame : ∀ row ∈ passed, SameColumns first.keys row := fun row hrow ↦
      List.forall_mem_singleton.1
        (exists_respond_cons_iff.1 (List.forall_mem_map.1 hpassed row hrow)).2.2
    rcases same_or_rowFault context first.keys 1 row with hrow | ⟨error, hrow⟩
    · obtain ⟨part, hpart⟩ : ∃ part, context.respond shape [first, row] = .ok part :=
        exists_respond_cons_iff.2 ⟨hmode, hfirst, List.forall_mem_singleton.2 hrow⟩
      cases hpart.symm.trans hfault
    · have hnone : ∀ other ∈ [], SameColumns first.keys other :=
        fun other hother ↦ absurd hother List.not_mem_nil
      have herror := respond_of_rowFault hmode hfirst hnone hrow [] shape
      obtain rfl := Except.error.inj (herror.symm.trans hfault)
      have hplace := respond_of_rowFault hmode hfirst hsame (hrow.atRow (passed.length + 1)) behind
        shape
      rw [hplace, List.length_cons, List.length_map]

/-- A result that fails has a first sample that does. -/
theorem exists_firstFailing_of_respond {shape : Shape} {first : RawRow} {rows : List RawRow}
    {error : ResponseError} (h : context.respond shape (first :: rows) = .error error) :
    ∃ before sample after fault, samples first rows = before ++ sample :: after ∧
      (∀ other ∈ before, ∃ part, context.respond shape other = .ok part) ∧
      context.respond shape sample = .error fault ∧ error = fault.atRow before.length := by
  rcases forall_or_first (fun sample ↦ ∃ part, context.respond shape sample = .ok part)
    (samples first rows) with hall | ⟨before, sample, after, hsamples, hbefore, hsample⟩
  · obtain ⟨body, hbody⟩ := exists_respond_iff_samples.2 hall
    cases hbody.symm.trans h
  · rcases hfault : context.respond shape sample with fault | part
    · have hfirst := respond_of_firstFailing hsamples hbefore hfault
      exact ⟨before, sample, after, fault, hsamples, hbefore, hfault,
        Except.error.inj (h.symm.trans hfirst)⟩
    · exact absurd ⟨part, hfault⟩ hsample

/-! ### What a response has of its rows -/

/-- A response is made by the one function of its first row, and so is that of any other rows behind
this one. -/
theorem exists_shapesBy_of_respond {shape : Shape} {first : RawRow} {rows : List RawRow}
    {body : Body} (h : context.respond shape (first :: rows) = .ok body) :
    ∃ shaped, body.rows = (first :: rows).map shaped ∧
      ∀ others part, context.respond shape (first :: others) = .ok part →
        part.members? = body.members? ∧ part.rows = (first :: others).map shaped := by
  obtain ⟨hmode, hfirst, hsame⟩ := exists_respond_cons_iff.1 ⟨body, h⟩
  obtain ⟨members?, shaped, hshapes⟩ := exists_shapesBy hmode hfirst shape
  have hpart : ∀ others part, context.respond shape (first :: others) = .ok part →
      part.members? = members? ∧ part.rows = (first :: others).map shaped := by
    intro others part hothers
    obtain ⟨-, -, hsame⟩ := exists_respond_cons_iff.1 ⟨part, hothers⟩
    obtain ⟨other, hother, hmembers, hrows⟩ := hshapes others hsame
    obtain rfl := Except.ok.inj (hother.symm.trans hothers)
    exact ⟨hmembers, hrows⟩
  obtain ⟨hmembers, hrows⟩ := hpart rows body h
  exact ⟨shaped, hrows, hmembers ▸ hpart⟩

theorem length_rows_of_respond {shape : Shape} {first : RawRow} {rows : List RawRow} {body : Body}
    (h : context.respond shape (first :: rows) = .ok body) :
    body.rows.length = rows.length + 1 := by
  obtain ⟨shaped, hrows, -⟩ := exists_shapesBy_of_respond h
  rw [hrows, List.length_map, List.length_cons]

/-- The row at an index is the last row for the sample at that index. -/
theorem sample_of_respond {shape : Shape} {first : RawRow} {rows sample : List RawRow}
    {body part : Body} {index : Nat} (h : context.respond shape (first :: rows) = .ok body)
    (hsample : (samples first rows)[index]? = some sample)
    (hpart : context.respond shape sample = .ok part) :
    part.members? = body.members? ∧ part.rows.length = sample.length ∧
      part.rows.getLast? = body.rows[index]? := by
  obtain ⟨shaped, hrows, hothers⟩ := exists_shapesBy_of_respond h
  obtain ⟨others, rfl⟩ := exists_eq_cons_of_mem_samples (List.mem_of_getElem? hsample)
  obtain ⟨hmembers, hpartRows⟩ := hothers others part hpart
  refine ⟨hmembers, ?_, ?_⟩
  · rw [hpartRows, List.length_map]
  · rw [hpartRows, hrows, List.getLast?_map, List.getElem?_map, getLast?_of_samples hsample]

/-- The first so many rows of a result have the first so many rows of its response. -/
theorem respond_take {shape : Shape} {first : RawRow} {rows : List RawRow} {body : Body}
    (h : context.respond shape (first :: rows) = .ok body) (count : Nat) :
    context.respond shape (first :: rows.take count) = .ok (body.take (count + 1)) := by
  obtain ⟨shaped, hrows, hothers⟩ := exists_shapesBy_of_respond h
  obtain ⟨hmode, hfirst, hsame⟩ := exists_respond_cons_iff.1 ⟨body, h⟩
  obtain ⟨part, hpart⟩ : ∃ part, context.respond shape (first :: rows.take count) = .ok part :=
    exists_respond_cons_iff.2 ⟨hmode, hfirst, fun row hrow ↦ hsame row (List.mem_of_mem_take hrow)⟩
  obtain ⟨hmembers, hpartRows⟩ := hothers (rows.take count) part hpart
  rw [hpart]
  refine congrArg Except.ok (Body.eq_of_rows ?_ ?_)
  · rw [Body.members?_take, hmembers]
  · rw [Body.rows_take, hpartRows, hrows, ← List.map_take, List.take_succ_cons]

/-- **Rows do not depend on each other.** A result has a response exactly if all of its samples
have. The members are the same throughout, and the row at an index is the last row for the sample
at that index; the first so many rows of the result have the first so many rows of the response.
Otherwise the error is that of the first sample without a response, at the place of the sample. -/
theorem respond_samples (context : Context) (shape : Shape) (first : RawRow)
    (rows : List RawRow) :
    ((∃ body, context.respond shape (first :: rows) = .ok body) ↔
      ∀ sample ∈ samples first rows, ∃ part, context.respond shape sample = .ok part) ∧
    (∀ body, context.respond shape (first :: rows) = .ok body →
      body.rows.length = rows.length + 1 ∧
      (∀ (index : Nat) sample part, (samples first rows)[index]? = some sample →
        context.respond shape sample = .ok part →
        part.members? = body.members? ∧ part.rows.length = sample.length ∧
          part.rows.getLast? = body.rows[index]?) ∧
      ∀ count, context.respond shape (first :: rows.take count) = .ok (body.take (count + 1))) ∧
    ∀ error, context.respond shape (first :: rows) = .error error ↔
      ∃ before sample after fault, samples first rows = before ++ sample :: after ∧
        (∀ other ∈ before, ∃ part, context.respond shape other = .ok part) ∧
        context.respond shape sample = .error fault ∧ error = fault.atRow before.length := by
  refine ⟨exists_respond_iff_samples, fun body hbody ↦ ?_, fun error ↦
    ⟨exists_firstFailing_of_respond, ?_⟩⟩
  · have hlength := length_rows_of_respond hbody
    exact ⟨hlength, fun _ _ _ ↦ sample_of_respond hbody, respond_take hbody⟩
  · rintro ⟨before, sample, after, fault, hsamples, hbefore, hfault, rfl⟩
    exact respond_of_firstFailing hsamples hbefore hfault

/-- Another row with the only column that the others have. -/
def shippedRow : RawRow := .ofList [("s", .string "shipped")]

/-- A row shows what its sample shows, the first rows are a response of their own, and a row with a
column too many fails where it stands as it fails next to the first row. -/
theorem respond_samples_of_orders :
    orders.respond .compact [plainRow, shippedRow, plainRow] =
      .ok (.compact ["Orders.status"] [[.string "new"], [.string "shipped"], [.string "new"]]) ∧
    orders.respond .compact [plainRow, shippedRow] =
      .ok (.compact ["Orders.status"] [[.string "new"], [.string "shipped"]]) ∧
    orders.respond .compact [plainRow, secretLast] = .error (.inconsistentRow 1 "c") ∧
    orders.respond .compact [plainRow, shippedRow, secretLast, plainRow] =
      .error (.inconsistentRow 2 "c") := by
  obtain ⟨-, hcontents, -⟩ := respond_samples orders .compact plainRow [shippedRow, plainRow]
  obtain ⟨-, -, herrors⟩ :=
    respond_samples orders .compact plainRow [shippedRow, secretLast, plainRow]
  obtain ⟨-, -, hfront⟩ := hcontents _ rfl
  have hbefore : ∀ sample ∈ [[plainRow], [plainRow, shippedRow]],
      ∃ part, orders.respond .compact sample = .ok part :=
    List.forall_mem_cons.2 ⟨⟨_, rfl⟩, List.forall_mem_singleton.2 ⟨_, rfl⟩⟩
  exact ⟨rfl, hfront 1, rfl,
    (herrors _).2 ⟨_, [plainRow, secretLast], _, _, rfl, hbefore, rfl, rfl⟩⟩

end Context

end SemanticLayer.Response
