import NullSafeEquality.Expr.Exchange
import NullSafeEquality.Proofs.Nodes

/-!
The JSON form of expression trees loses nothing. Reading looks at the fields of a record by their
names alone, so for each constructor it is enough to look up what writing put there; the trees below
have been read already. Only the numbers of a place have a bound, that of a word of 64 bits.
-/

namespace NullSafeEquality

namespace Json

variable {α : Type}

theorem choice?_label {all : List α} {label : α → String} {a : α} (mem : a ∈ all)
    (distinct : ∀ b ∈ all, label b = label a → b = a) :
    choice? all label (string (label a)) = some a := by
  have finds : (all.find? fun b => label b == label a).isSome = true :=
    List.find?_isSome.mpr ⟨a, mem, beq_self_eq_true (label a)⟩
  obtain ⟨b, found⟩ := Option.isSome_iff_exists.mp finds
  have same := List.find?_some found
  rw [choice?, found, distinct b (List.mem_of_find?_eq_some found) (eq_of_beq same)]

theorem optional?_ofOption (text : Option String) :
    optional? string? (some (ofOption string text)) = some text := by
  cases text <;> rfl

theorem optional?_map_string (text : Option String) :
    optional? string? (text.map string) = some text := by
  cases text <;> rfl

theorem optional?_string_eq_some {j : Option Json} {text : Option String}
    (h : optional? string? j = some text) :
    (text = none ∧ (j = none ∨ j = some null)) ∨ ∃ t, text = some t ∧ j = some (string t) := by
  cases j with
  | none =>
      cases h
      exact Or.inl ⟨rfl, Or.inl rfl⟩
  | some j =>
      cases j with
      | null =>
          cases h
          exact Or.inl ⟨rfl, Or.inr rfl⟩
      | string t =>
          cases h
          exact Or.inr ⟨t, rfl, rfl⟩
      | _ => cases h

/-- A member with another name does not show when a name is looked up. -/
theorem lookup_insert_of_ne {name other : String} (differ : name ≠ other) (j : Json)
    (front back : List (String × Json)) :
    (front ++ (other, j) :: back).lookup name = (front ++ back).lookup name := by
  simp [List.lookup_append, List.lookup_cons, beq_eq_false_iff_ne.mpr differ]

/-- A member is found unless one with the same name stands before it. -/
theorem lookup_insert_self {name : String} (j : Json) {front back : List (String × Json)}
    (absent : (front ++ back).lookup name = none) :
    (front ++ (name, j) :: back).lookup name = some j := by
  rw [List.lookup_append, Option.or_eq_none_iff] at absent
  simp [List.lookup_append, absent.1]

end Json

@[simp] theorem LiteralKind.choice?_label (kind : LiteralKind) :
    Json.choice? all label (.string kind.label) = some kind := by
  cases kind <;> exact Json.choice?_label (by decide) (by decide)

@[simp] theorem BinaryOp.choice?_label (op : BinaryOp) :
    Json.choice? all label (.string op.label) = some op := by
  cases op <;> exact Json.choice?_label (by decide) (by decide)

@[simp] theorem UnaryOp.choice?_label (op : UnaryOp) :
    Json.choice? all label (.string op.label) = some op := by
  cases op <;> exact Json.choice?_label (by decide) (by decide)

@[simp] theorem UpdateOp.choice?_label (op : UpdateOp) :
    Json.choice? all label (.string op.label) = some op := by
  cases op <;> exact Json.choice?_label (by decide) (by decide)

namespace Span

/-- All numbers are words of 64 bits, as the places in a text are. -/
def InWords (s : Span) : Prop :=
  s.startLine < UInt64.size ∧ s.startCol < UInt64.size ∧ s.endLine < UInt64.size ∧
  s.endCol < UInt64.size ∧ s.startByte < UInt64.size ∧ s.endByte < UInt64.size

instance (s : Span) : Decidable s.InWords :=
  inferInstanceAs (Decidable (_ ∧ _ ∧ _ ∧ _ ∧ _ ∧ _))

theorem ofJson?_toJson {s : Span} (h : s.InWords) : ofJson? s.toJson = some s := by
  obtain ⟨startLine, startCol, endLine, endCol, startByte, endByte⟩ := h
  simp [ofJson?, toJson, Json.record?, fieldNames, List.lookup_cons, Json.word?, startLine, startCol,
    endLine, endCol, startByte, endByte]

end Span

namespace Expr

/-- All places are given in words of 64 bits. -/
def InWords (e : Expr) : Prop := ∀ x ∈ e.nodes, x.span.InWords

instance (e : Expr) : Decidable e.InWords :=
  inferInstanceAs (Decidable (∀ x ∈ e.nodes, x.span.InWords))

/-- The tree is what its JSON form is read as. -/
def ReadBack (e : Expr) : Prop := ofJson? e.toJson = some e

/-- What may stand in a field, in the roles of a field. -/
def slotOf (j : Option Json) : Option Slot := j.map fun j => (read j).toSlot

theorem json_read (j : Json) : (read j).json = j := by
  cases j <;> rfl

theorem readItems_eq_map (items : List Json) : readItems items = items.map read := by
  induction items with
  | nil => simp [readItems]
  | cons j rest ih => simp [readItems, ih]

theorem lookup_readMembers (name : String) (members : List (String × Json)) :
    ((readMembers members).map fun (key, r) => (key, r.toSlot)).lookup name =
      slotOf (members.lookup name) := by
  induction members with
  | nil => rfl
  | cons member rest ih =>
      obtain ⟨key, j⟩ := member
      rw [readMembers, List.map_cons, List.lookup_cons, List.lookup_cons]
      split
      · rfl
      · exact ih

/-- Fields are looked up by their names. -/
@[simp] theorem fields?_read (members : List (String × Json)) (names : List String) :
    (read (.object members)).fields? names =
      some (names.map fun name => slotOf (members.lookup name)) := by
  simp only [Reading.fields?, read, lookup_readMembers, Option.map_some]

@[simp] theorem ofJson?_object (tag : String) (body : Json) :
    ofJson? (.object [(tag, body)]) = ofBody? tag (read body) := by
  rw [ofJson?, read, readMembers, readMembers]

/-- Unlike a plain record that of a constructor is never an array, not even of all its fields. -/
theorem ofJson?_of_array (tag : String) (items : List Json) :
    ofJson? (.object [(tag, .array items)]) = none := by
  have noFields (names : List String) : (read (.array items)).fields? names = none := by
    rw [Reading.fields?, read, Option.map_none]
  rw [ofJson?_object]
  unfold ofBody?
  split <;> simp [noFields]

theorem listOfJson?_array (items : List Json) :
    listOfJson? (.array items) = items.mapM ofJson? := by
  rw [listOfJson?, read, readItems_eq_map, List.mapM_map]
  rfl

theorem listToJson_eq_map (es : List Expr) : listToJson es = es.map toJson := by
  induction es with
  | nil => rw [listToJson, List.map_nil]
  | cons e rest ih => rw [listToJson, ih, List.map_cons]

section Fields

variable {α : Type} (j : Option Json)

@[simp] theorem value?_slotOf (value? : Json → Option α) :
    Slot.value? value? (slotOf j) = j.bind value? := by
  cases j <;> simp [slotOf, Slot.value?, json_read]

@[simp] theorem tree?_slotOf : Slot.tree? (slotOf j) = j.bind ofJson? := by
  cases j <;> rfl

@[simp] theorem trees?_slotOf : Slot.trees? (slotOf j) = j.bind listOfJson? := by
  cases j <;> rfl

@[simp] theorem text?_slotOf : Slot.text? (slotOf j) = Json.optional? Json.string? j := by
  cases j <;> simp [slotOf, Slot.text?, json_read]

@[simp] theorem receiver?_slotOf : Slot.receiver? (slotOf j) = Json.optional? ofJson? j := by
  cases j with
  | none => rfl
  | some j => cases j <;> rfl

end Fields

/-- A list of trees is read back if each tree is. -/
theorem listOfJson?_listToJson {es : List Expr} (h : ∀ e ∈ es, e.ReadBack) :
    listOfJson? (.array (listToJson es)) = some es := by
  rw [listOfJson?_array, listToJson_eq_map]
  induction es with
  | nil => rfl
  | cons e rest ih =>
      obtain ⟨here, later⟩ := List.forall_mem_cons.mp h
      rw [ReadBack] at here
      simp [here, ih later]

/-- The members of the record of a call. Type arguments have one only if there are any. -/
def callMembers (receiver : Option Expr) (typeArgs : Option String) (method : String)
    (args : List Expr) (span : Span) : List (String × Json) :=
  ("receiver", receiverToJson receiver) ::
    (typeArgs.map fun text => ("type_args", Json.string text)).toList ++
    [("method", .string method), ("args", .array (listToJson args)), ("span", span.toJson)]

section Calls

variable (receiver : Option Expr) (typeArgs : Option String) (method : String) (args : List Expr)
  (span : Span)

theorem toJson_call :
    (call receiver typeArgs method args span).toJson =
      .object [("Call", .object (callMembers receiver typeArgs method args span))] := by
  cases typeArgs <;> simp [toJson, callMembers]

theorem lookup_callMembers :
    let members := callMembers receiver typeArgs method args span
    members.lookup "receiver" = some (receiverToJson receiver) ∧
    members.lookup "type_args" = typeArgs.map Json.string ∧
    members.lookup "method" = some (.string method) ∧
    members.lookup "args" = some (.array (listToJson args)) ∧
    members.lookup "span" = some span.toJson := by
  cases typeArgs <;> simp [callMembers, List.lookup_cons]

end Calls

/-- How the record of a call is read. -/
theorem ofJson?_call (members : List (String × Json)) :
    ofJson? (.object [("Call", .object members)]) = (do
      return call (← Json.optional? ofJson? (members.lookup "receiver"))
        (← Json.optional? Json.string? (members.lookup "type_args"))
        (← (members.lookup "method").bind Json.string?)
        (← (members.lookup "args").bind listOfJson?)
        (← (members.lookup "span").bind Span.ofJson?)) := by
  simp [ofBody?]

theorem exists_toJson_eq_object (e : Expr) : ∃ members, e.toJson = .object members := by
  cases e with
  | call receiver typeArgs method args span => exact ⟨_, toJson_call ..⟩
  | _ => exact ⟨_, by rw [toJson]⟩

theorem optional?_receiverToJson {receiver : Option Expr} (h : ∀ e ∈ receiver, e.ReadBack) :
    Json.optional? ofJson? (some (receiverToJson receiver)) = some receiver := by
  cases receiver with
  | none => rw [receiverToJson, Json.optional?]
  | some e =>
      have here : ofJson? e.toJson = some e := h e rfl
      obtain ⟨members, written⟩ := exists_toJson_eq_object e
      rw [written] at here
      rw [receiverToJson, written, Json.optional?, here, Option.map_some]
      intro null
      cases null

/-- A node is read back if its place and its children are. -/
theorem readBack_node {e : Expr} (span : Span.ofJson? e.span.toJson = some e.span)
    (below : ∀ c ∈ e.children, c.ReadBack) : e.ReadBack := by
  rw [ReadBack]
  have place : ∀ s, e.span = s → Span.ofJson? s.toJson = some s := fun s here => here ▸ span
  cases e with
  | literal _ _ s | name _ s =>
      simp [toJson, ofBody?, List.lookup_cons, Json.string?, place s rfl]
  | self _ s | super _ s =>
      simp [toJson, ofBody?, List.lookup_cons, Json.optional?_ofOption, place s rfl]
  | field a _ s | unary _ a s | update _ a s | paren a s | cast _ a s =>
      have inner : ofJson? a.toJson = some a := below a (List.mem_singleton.mpr rfl)
      simp [toJson, ofBody?, List.lookup_cons, Json.string?, inner, place s rfl]
  | index a b s | binary _ a b s | assign _ a b s =>
      obtain ⟨left, right⟩ : ofJson? a.toJson = some a ∧ ofJson? b.toJson = some b := by
        simpa [children, ReadBack] using below
      simp [toJson, ofBody?, List.lookup_cons, Json.string?, left, right, place s rfl]
  | conditional c t f s =>
      obtain ⟨condition, yes, no⟩ :
          ofJson? c.toJson = some c ∧ ofJson? t.toJson = some t ∧ ofJson? f.toJson = some f := by
        simpa [children, ReadBack] using below
      simp [toJson, ofBody?, List.lookup_cons, condition, yes, no, place s rfl]
  | call receiver typeArgs method args s =>
      have items := listOfJson?_listToJson fun c mem => below c (List.mem_append_right _ mem)
      have object := optional?_receiverToJson fun c mem =>
        below c (List.mem_append_left _ (Option.mem_toList.mpr mem))
      have lookups := lookup_callMembers receiver typeArgs method args s
      rw [toJson_call, ofJson?_call]
      simp [lookups, object, Json.optional?_map_string, Json.string?, items, place s rfl]
  | new _ args s | unknown _ _ args s =>
      have items := listOfJson?_listToJson below
      rw [children] at items
      simp [toJson, ofBody?, List.lookup_cons, Json.string?, items, place s rfl]

theorem readBack_of_inWords (e : Expr) (h : e.InWords) : e.ReadBack := by
  induction e using childrenInduction with
  | node e ih =>
      obtain ⟨here, below⟩ := forall_mem_nodes_iff.mp h
      exact readBack_node (Span.ofJson?_toJson here) fun c mem => ih c mem (below c mem)

/-- The type arguments of a call that is read are those of its record. -/
theorem exists_call_of_ofJson? {members : List (String × Json)} {e : Expr}
    (h : ofJson? (.object [("Call", .object members)]) = some e) :
    ∃ receiver typeArgs method args span, e = call receiver typeArgs method args span ∧
      (typeArgs = none ↔
        members.lookup "type_args" = none ∨ members.lookup "type_args" = some .null) ∧
      ∀ text, typeArgs = some text ↔ members.lookup "type_args" = some (.string text) := by
  rw [ofJson?_call] at h
  obtain ⟨receiver, -, h⟩ := Option.bind_eq_some_iff.mp h
  obtain ⟨typeArgs, found, h⟩ := Option.bind_eq_some_iff.mp h
  obtain ⟨method, -, h⟩ := Option.bind_eq_some_iff.mp h
  obtain ⟨args, -, h⟩ := Option.bind_eq_some_iff.mp h
  obtain ⟨span, -, h⟩ := Option.bind_eq_some_iff.mp h
  cases h
  refine ⟨receiver, typeArgs, method, args, span, rfl, ?_⟩
  -- what was found is nothing, null or a text; reading fails on every other value
  obtain ⟨rfl, absent | null⟩ | ⟨text, rfl, here⟩ := Json.optional?_string_eq_some found
  · simp [absent]
  · simp [null]
  · simp [here, eq_comm]

/-- Type arguments that are null are as good as absent. -/
theorem ofJson?_of_null_typeArgs {receiver : Option Expr} {method : String} {args : List Expr}
    {span : Span} {front back : List (String × Json)}
    (h : (call receiver none method args span).InWords)
    (written : (call receiver none method args span).toJson =
      .object [("Call", .object (front ++ back))]) :
    ofJson? (.object [("Call", .object (front ++ ("type_args", .null) :: back))]) =
      some (call receiver none method args span) := by
  have read : ofJson? _ = _ := readBack_of_inWords _ h
  have absent : (front ++ back).lookup "type_args" = none := by
    have members : callMembers receiver none method args span = front ++ back := by
      simpa [toJson_call] using written
    rw [← members]
    exact (lookup_callMembers receiver none method args span).2.1
  rw [written, ofJson?_call, absent] at read
  rw [ofJson?_call, Json.lookup_insert_self .null absent]
  simp only [Json.lookup_insert_of_ne, ne_eq, String.reduceEq, not_false_eq_true]
  exact read

/-- Trees are read back from their JSON form, so that different trees have different forms. A call
without type arguments has no member for them, and is read as one without also if that member is
null; any text there stays, the empty one too. -/
theorem json_form_lossless :
    (∀ e : Expr, e.InWords → ofJson? e.toJson = some e) ∧
    (∀ a b : Expr, a.InWords → b.InWords → a ≠ b → a.toJson ≠ b.toJson) ∧
    (∀ receiver typeArgs method args span, ∃ members,
      (call receiver typeArgs method args span).toJson = .object [("Call", .object members)] ∧
      members.lookup "type_args" = typeArgs.map .string) ∧
    (∀ members e, ofJson? (.object [("Call", .object members)]) = some e →
      ∃ receiver typeArgs method args span, e = call receiver typeArgs method args span ∧
        (typeArgs = none ↔
          members.lookup "type_args" = none ∨ members.lookup "type_args" = some .null) ∧
        ∀ text, typeArgs = some text ↔ members.lookup "type_args" = some (.string text)) ∧
    ∀ receiver method args span front back, (call receiver none method args span).InWords →
      (call receiver none method args span).toJson =
        .object [("Call", .object (front ++ back))] →
      ofJson? (.object [("Call", .object (front ++ ("type_args", .null) :: back))]) =
        some (call receiver none method args span) := by
  refine ⟨readBack_of_inWords, ?_, ?_, ?_, ?_⟩
  · intro a b ha hb differ same
    have read : ofJson? a.toJson = some b := same ▸ readBack_of_inWords b hb
    rw [readBack_of_inWords a ha] at read
    exact differ (Option.some.inj read)
  · intro receiver typeArgs method args span
    exact ⟨_, toJson_call .., (lookup_callMembers ..).2.1⟩
  · intro members e h
    exact exists_call_of_ofJson? h
  · intro receiver method args span front back h written
    exact ofJson?_of_null_typeArgs h written

/-- The call `Outer.this.<>f(() -> g(), "a")`, with type arguments or without. -/
def outerCall (typeArgs : Option String) : Expr :=
  call (some (self (some "Outer") {})) typeArgs "f"
    [unknown "lambda_expression" "() -> g()" [call none none "g" [] {}] {},
      literal .string "\"a\"" {}] { startLine := 1, startCol := 30, endByte := UInt64.size - 1 }

theorem outerCall_lossless :
    (outerCall (some "")).InWords ∧ (outerCall none).InWords ∧
    ofJson? (outerCall (some "")).toJson = some (outerCall (some "")) ∧
    (outerCall (some "")).toJson ≠ (outerCall none).toJson ∧
    ∃ members, (outerCall none).toJson = .object [("Call", .object members)] ∧
      ofJson? (.object [("Call", .object (("type_args", .null) :: members))]) =
        some (outerCall none) ∧
      ofJson? (.object [("Call", .object (("type_args", .string "") :: members))]) ≠
        some (outerCall none) := by
  obtain ⟨readBack, distinct, written, typed, null⟩ := json_form_lossless
  have empty : (outerCall (some "")).InWords := by decide
  have absent : (outerCall none).InWords := by decide
  obtain ⟨members, form, -⟩ := written _ none _ _ _
  refine ⟨empty, absent, readBack _ empty, distinct _ _ empty absent (by simp [outerCall]),
    members, form, null _ _ _ _ [] members absent form, ?_⟩
  intro read
  obtain ⟨_, typeArgs, _, _, _, same, -, text⟩ := typed _ _ read
  have some : typeArgs = some "" := (text "").mpr rfl
  rw [some] at same
  simp [outerCall] at same

end Expr
end NullSafeEquality
