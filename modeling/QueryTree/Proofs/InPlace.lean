import QueryTree.Proofs.NormalForm
import QueryTree.Proofs.Segments
/-!
# In place — fragments are put together like texts with holes

A fragment is a text with a hole for each of its parameters. What stands
in the holes is decided when it is rendered, by the number that a
parameter has in the whole statement, and nothing else about a fragment
depends on what it is put into. So two fragments one after the other are
written as the first and then the second, numbered on from the first
(`Fragment.withHoles_append`), and whatever is put into a template, a
list, parentheses or a statement is written as if its text stood there
(`Fragment.composed_as_text`).
-/

namespace QueryTree

/-- What some parts are written as, with a text for the parameter of each
number: the first one has the number 1. -/
def Part.written (dialect : Dialect) : (Nat → String) → List Part → String
  | _, [] => ""
  | hole, .text t :: parts => t ++ written dialect hole parts
  | hole, .identifier n :: parts =>
    Statement.identifierText dialect n ++ written dialect hole parts
  | hole, .aliasName n :: parts => dialect.quoteName n ++ written dialect hole parts
  | hole, .param _ :: parts => hole 1 ++ written dialect (fun number => hole (1 + number)) parts

namespace Fragment

variable {dialect : Dialect} {hole : Nat → String}

/-- **A fragment as a text with holes,** given what stands in them: quoted
names are the only thing in it that the dialect decides. -/
def withHoles (dialect : Dialect) (hole : Nat → String) (fragment : Fragment) : String :=
  Part.written dialect hole fragment.parts

/-! ## One fragment after another -/

theorem written_append (first second : List Part) :
    Part.written dialect hole (first ++ second) =
      Part.written dialect hole first ++
        Part.written dialect (fun number => hole (placeholderCount ⟨first⟩ + number)) second := by
  induction first generalizing hole with
  | nil => simp [Part.written, placeholderCount, params]
  | cons part first ih =>
    cases part with
    | param p =>
      -- the holes behind a parameter have a number more
      have hcount : placeholderCount ⟨.param p :: first⟩ = 1 + placeholderCount ⟨first⟩ :=
        Nat.add_comm ..
      simp only [List.cons_append, Part.written, ih, hcount, Nat.add_assoc, String.append_assoc]
    | _ =>
      simp only [List.cons_append, Part.written, ih, String.append_assoc]
      rfl

theorem written_cons (part : Part) (parts : List Part) :
    Part.written dialect hole (part :: parts) =
      Part.written dialect hole [part] ++
        Part.written dialect (fun number => hole (placeholderCount ⟨[part]⟩ + number)) parts :=
  written_append [part] parts

theorem written_textAtEnd (text : String) (parts : List Part) :
    Part.written dialect hole (textAtEnd text parts) = Part.written dialect hole parts ++ text := by
  rcases List.eq_nil_or_concat parts with rfl | ⟨init, last, rfl⟩
  · simp [textAtEnd, Part.written]
  · rw [List.concat_eq_append]
    cases last with
    | text last => simp [textAtEnd_concat_text, written_append, Part.written, String.append_assoc]
    | _ =>
      rw [textAtEnd_concat _ _ id, written_append (_ ++ _)]
      simp [Part.written]

theorem withHoles_push (fragment : Fragment) (part : Part) :
    (fragment.push part).withHoles dialect hole =
      fragment.withHoles dialect hole ++
        Part.written dialect (fun number => hole (fragment.placeholderCount + number)) [part] := by
  cases part with
  | text text =>
    rw [push, appendText]
    by_cases hempty : text.isEmpty
    · rw [if_pos hempty, String.isEmpty_iff.mp hempty]
      simp [Part.written]
    · rw [if_neg hempty]
      simpa [withHoles, Part.written] using written_textAtEnd text fragment.parts
  | _ => exact written_append fragment.parts _

/-- **Two fragments are written one after the other,** the holes of the
second being numbered on from those of the first. -/
theorem withHoles_append (first second : Fragment) :
    (first ++ second).withHoles dialect hole =
      first.withHoles dialect hole ++
        second.withHoles dialect fun number => hole (first.placeholderCount + number) := by
  obtain ⟨parts⟩ := second
  change (parts.foldl push first).withHoles dialect hole = _ ++ Part.written dialect _ parts
  induction parts generalizing first with
  | nil => simp [Part.written]
  | cons part parts ih =>
    have hcount : (first.push part).placeholderCount =
        first.placeholderCount + placeholderCount ⟨[part]⟩ := by
      simp [placeholderCount, params_push]
    rw [List.foldl_cons, ih, withHoles_push, hcount, written_cons part parts, String.append_assoc]
    simp only [Nat.add_assoc]

/-- **To render a fragment is to fill its holes with placeholders.** -/
theorem render_eq (dialect : Dialect) (fragment : Fragment) :
    fragment.render dialect =
      ⟨fragment.withHoles dialect dialect.placeholder, fragment.params⟩ := by
  have hpart (statement : Statement) (part : Part) :
      (Statement.appendPart dialect statement part).sql =
        statement.sql ++ Part.written dialect
          (fun number => dialect.placeholder (statement.params.length + number)) [part] := by
    cases part <;> simp [Statement.appendPart, Statement.appendText, Statement.appendIdentifier,
      Statement.appendAlias, Statement.appendParam, Part.written]
  have hsql (parts : List Part) (statement : Statement) :
      (parts.foldl (Statement.appendPart dialect) statement).sql =
        statement.sql ++ Part.written dialect
          (fun number => dialect.placeholder (statement.params.length + number)) parts := by
    induction parts generalizing statement with
    | nil => simp [Part.written]
    | cons part parts ih =>
      have hcount : (Statement.appendPart dialect statement part).params.length =
          statement.params.length + placeholderCount ⟨[part]⟩ := by
        rw [Statement.params_appendPart, List.length_append, placeholderCount, ← params_symbols]
        simp [symbols]
      rw [List.foldl_cons, ih, hpart, hcount, written_cons part parts, String.append_assoc]
      simp only [Nat.add_assoc]
  have hrendered : (fragment.render dialect).sql =
      fragment.withHoles dialect dialect.placeholder := by
    have hempty := hsql fragment.parts .empty
    simpa [Statement.empty, render, withHoles] using hempty
  rw [← hrendered, ← params_render]

/-! ## Many fragments in place -/

/-- **Fragments written in place,** one after the other: each has its holes
numbered on from those before it. -/
def inPlace (dialect : Dialect) : (Nat → String) → List Fragment → String
  | _, [] => ""
  | hole, piece :: pieces =>
    piece.withHoles dialect hole ++
      inPlace dialect (fun number => hole (piece.placeholderCount + number)) pieces

theorem withHoles_concat (pieces : List Fragment) :
    (concat pieces).withHoles dialect hole = inPlace dialect hole pieces := by
  have hfold (first : Fragment) (hole : Nat → String) :
      (pieces.foldl (· ++ ·) first).withHoles dialect hole =
        first.withHoles dialect hole ++
          inPlace dialect (fun number => hole (first.placeholderCount + number)) pieces := by
    induction pieces generalizing first with
    | nil => simp [inPlace]
    | cons piece pieces ih =>
      rw [List.foldl_cons, ih, withHoles_append, inPlace, String.append_assoc]
      simp only [placeholderCount_append, Nat.add_assoc]
  have hempty := hfold empty hole
  simpa [concat, empty, withHoles, Part.written, placeholderCount, params] using hempty

theorem params_concat (pieces : List Fragment) :
    (concat pieces).params = pieces.flatMap params := by
  have hfold (first : Fragment) :
      (pieces.foldl (· ++ ·) first).params = first.params ++ pieces.flatMap params := by
    induction pieces generalizing first with
    | nil => simp
    | cons piece pieces ih => rw [List.foldl_cons, ih, params_append, List.flatMap_cons,
        List.append_assoc]
  exact hfold empty

/-- **A fragment that is rendered as its pieces are, each in its place.** -/
def RendersAs (fragment : Fragment) (pieces : List Fragment) : Prop :=
  ∀ dialect : Dialect, fragment.render dialect =
    ⟨inPlace dialect dialect.placeholder pieces, pieces.flatMap params⟩

/-- It is enough that the pieces have the same symbols. -/
theorem Normal.rendersAs {fragment : Fragment} (h : fragment.Normal) {pieces : List Fragment}
    (hsymbols : pieces.flatMap symbols = fragment.symbols) : fragment.RendersAs pieces := by
  intro dialect
  rw [eq_concat h hsymbols, render_eq, withHoles_concat, params_concat]

end Fragment

open Fragment

/-! ## What a template, a source and a statement are made of -/

/-- **The texts of a template and what fills its holes,** in turn. -/
def Template.Segments.pieces (segments : Segments) (fillings : List Fragment) : List Fragment :=
  ofText segments.first :: (fillings.zip segments.later).flatMap fun (filling, text) =>
    [filling, ofText text]

theorem Fragment.symbols_alternate (fragment : Fragment) (turns : List (Fragment × String)) :
    (fragment.alternate turns).symbols =
      fragment.symbols ++ (turns.flatMap fun (filling, text) => [filling, ofText text]).flatMap
        symbols := by
  induction turns generalizing fragment with
  | nil => simp [alternate]
  | cons turn turns ih =>
    obtain ⟨filling, text⟩ := turn
    rw [alternate_cons, ih]
    simp

theorem Template.rendersAs_of_fill {template : String} {fillings : List Fragment}
    {fragment : Fragment} (h : fill template fillings = .ok fragment) :
    fragment.RendersAs ((segments template.toList).pieces fillings) := by
  have hnormal := normal_of_fill h
  rw [fill_eq_ite] at h
  split at h
  · cases h
    refine hnormal.rendersAs ?_
    rw [Segments.filled, symbols_alternate]
    rfl
  · cases h

namespace Source

/-- A source piece by piece. -/
def pieces : Source → List Fragment
  | table name aliasName => identifier name :: aliased aliasName
  | subquery query aliasName => [ofText "(", query, ofText ")"] ++ aliased aliasName

theorem symbols_pieces (source : Source) :
    source.pieces.flatMap symbols = source.toFragment.symbols := by
  cases source with
  | table name aliasName => exact (symbols_table name aliasName).symm
  | subquery query aliasName => exact (symbols_subquery query aliasName).symm

end Source

namespace Select

/-- The select list piece by piece: what makes the rows distinct, then the
columns, or `*` where there is neither. -/
def listPieces (select : Select) : List Fragment :=
  match select.distinct, select.columns with
  | none, [] => [ofText "*"]
  | none, columns => commaList columns
  | some distinct, [] => [distinct]
  | some distinct, columns => [distinct, ofText ", "] ++ commaList columns

/-- The grouping piece by piece, if there is any. -/
def groupingPieces (select : Select) : List Fragment :=
  match select.groupBy with
  | [] => []
  | elements => ofText " GROUP BY " :: commaList elements

/-- The ordering piece by piece, if there is any. -/
def orderingPieces (select : Select) : List Fragment :=
  match select.orderBy with
  | none => []
  | some elements => if elements.isEmpty then [] else [ofText " ORDER BY ", elements]

/-- **A statement piece by piece,** in the order of the text. -/
def pieces (select : Select) : List Fragment :=
  [ofText "SELECT "] ++ select.listPieces ++
    (select.source.elim [] fun source => ofText " FROM " :: source.pieces) ++
    (select.joins.flatMap fun join => [ofText " ", join]) ++
    introduced " WHERE " select.filter ++ select.groupingPieces ++
    introduced " HAVING " select.having ++ select.orderingPieces ++
    counted " LIMIT " select.limit.limit ++ counted " OFFSET " select.limit.offset

variable (select : Select)

theorem symbols_listPieces : select.listPieces.flatMap symbols = select.selectList.symbols := by
  unfold listPieces
  cases hdistinct : select.distinct with
  | none =>
    rw [selectList_of_none hdistinct]
    cases select.columns <;> simp [symbols_commaList]
  | some distinct =>
    rw [selectList_of_some hdistinct]
    cases select.columns <;> simp [symbols_commaList]

theorem symbols_sourcePieces :
    (select.source.elim [] fun source => ofText " FROM " :: source.pieces).flatMap symbols =
      (clause " FROM " (select.source.map Source.toFragment)).symbols := by
  cases select.source <;> simp [clause, Source.symbols_pieces]

theorem symbols_groupingPieces :
    select.groupingPieces.flatMap symbols = select.grouping.symbols := by
  unfold groupingPieces grouping
  cases select.groupBy <;> simp [symbols_commaList, commaSeparated]

theorem symbols_orderingPieces :
    select.orderingPieces.flatMap symbols = select.ordering.symbols := by
  unfold orderingPieces
  cases horder : select.orderBy with
  | none => rw [ordering_of_none horder]; rfl
  | some elements =>
    rw [ordering_of_some horder]
    by_cases hempty : elements.isEmpty = true
    · simp [hempty]
    · simp [hempty]

/-- **The pieces of a statement are its text,** symbol by symbol. -/
theorem symbols_pieces : select.pieces.flatMap symbols = select.toFragment.symbols := by
  unfold pieces toFragment
  simp only [List.flatMap_append, symbols_listPieces, symbols_sourcePieces,
    Query.Pieces.symbols_joins, symbols_introduced, symbols_groupingPieces,
    symbols_orderingPieces, symbols_counted, symbols_append, List.flatMap_singleton]

end Select

theorem Fragment.symbols_intersperse (separator : String) (fragments : List Fragment) :
    (fragments.intersperse (ofText separator)).flatMap symbols =
      (joined separator fragments).symbols := by
  induction fragments with
  | nil => rfl
  | cons first rest ih =>
    cases rest with
    | nil => simp
    | cons second rest =>
      rw [symbols_joined_cons_cons, ← ih]
      simp

/-! ## Composition -/

/-- **Fragments are put together like texts with holes.** It does not matter
what is put together first. A fragment after another one is written after
it, its parameters numbered on from the number of those before, and brings
its parameters in order; there are as many of these as placeholders. So a
fragment that is put into a template, into a list, between parentheses or
into a statement is written as if its text stood in that place. -/
theorem Fragment.composed_as_text :
    (∀ first second third : Fragment, first ++ second ++ third = first ++ (second ++ third)) ∧
    (∀ (dialect : Dialect) (first second : Fragment), (first ++ second).render dialect =
      ⟨(first.render dialect).sql ++ second.withHoles dialect fun number =>
          dialect.placeholder (first.placeholderCount + number),
        (first.render dialect).params ++ (second.render dialect).params⟩) ∧
    (∀ (dialect : Dialect) (fragment : Fragment),
      fragment.render dialect =
          ⟨fragment.withHoles dialect dialect.placeholder, fragment.params⟩ ∧
        (fragment.render dialect).params.length = fragment.placeholderCount) ∧
    (∀ template fillings fragment, Template.fill template fillings = .ok fragment →
      fragment.RendersAs ((Template.segments template.toList).pieces fillings)) ∧
    (∀ separator fragments,
      (joined separator fragments).RendersAs (fragments.intersperse (ofText separator))) ∧
    (∀ fragment : Fragment,
      fragment.parenthesized.RendersAs [ofText "(", fragment, ofText ")"]) ∧
    ∀ select : Select, select.toFragment.RendersAs select.pieces := by
  refine ⟨append_assoc, fun dialect first second => ?_, fun dialect fragment => ⟨?_, ?_⟩,
    fun _ _ _ => Template.rendersAs_of_fill, fun separator fragments => ?_, fun fragment => ?_,
    fun select => ?_⟩
  · rw [render_eq, withHoles_append, params_append, params_render, params_render, render_eq]
  · exact render_eq dialect fragment
  · rw [params_render, placeholderCount]
  · exact (normal_joined separator fragments).rendersAs (symbols_intersperse separator fragments)
  · exact (normal_parenthesized fragment).rendersAs (by simp)
  · exact select.normal_toFragment.rendersAs select.symbols_pieces

/-- A list of two parameters in a template that has one before it and one
after it. -/
theorem Fragment.composed_numberedOn :
    ∃ fragment, Template.fill "? IN (?) \\? ?" [.ofParam .null,
        joined ", " [.ofParam (.bool true), .ofText "f(" ++ .ofParam .null ++ .ofText ")"],
        .ofParam (.string "?")] = .ok fragment ∧
      fragment.render .postgres =
        ⟨"$1 IN ($2, f($3)) ? $4", [.null, .bool true, .null, .string "?"]⟩ := by
  obtain ⟨-, -, -, hfill, -⟩ := composed_as_text
  have hfilled : Template.fill "? IN (?) \\? ?" [.ofParam .null,
      joined ", " [.ofParam (.bool true), .ofText "f(" ++ .ofParam .null ++ .ofText ")"],
      .ofParam (.string "?")] = .ok ⟨[.param .null, .text " IN (", .param (.bool true),
        .text ", f(", .param .null, .text ")) ? ", .param (.string "?")]⟩ :=
    eq_ok_of_toOption (by decide +kernel)
  refine ⟨_, hfilled, ?_⟩
  rw [hfill _ _ _ hfilled]
  decide +kernel

end QueryTree
