/-
**Values survive being written as JSON.**

The text of a value has the same tokens in every form that differs from another by blanks only, as the
compact and the pretty one do.  Fed to the reader the tokens build one document, as deep as the value
nests, and that document denotes a value equal to the written one: numbers by value, and objects
because their fields are written in the order in which the reader sorts them.  The reader rounds more
than once where it reads a double, so that not every double is read from its text; that those of the
value are has to be assumed.

Main definitions:

* `Value.Plain` — data without absent values and with finite numbers, nested so deep at most;
* `Value.doubles` — the doubles of a value that are not written as integers;
* `Value.tokens`, `Value.document` — the tokens and the document of a value;
* `Json.Form.Blank` — a form that only adds blanks.

Main results:

* `Value.lexes_text` — the text of a value has its tokens, in every such form;
* `Json.State.run_tokens` — the reader builds the document of the value from its tokens;
* `Value.document_beq` — the document denotes the value;
* `Value.texts_read_back` — **both texts are read back as an equal value**.
-/

import Mathlib
import ProvenShapes.Proofs.Json.Lexing
import ProvenShapes.Value.Order

set_option autoImplicit false

namespace ProvenShapes

open Json (Token Lexes EndsNumber)

namespace Value

/-- Data without absent values and with finite numbers, in which at most so many arrays and objects
stand inside each other.  The fields of objects are sorted, as they are in every value. -/
inductive Plain : ℕ → Value → Prop
  | null {n : ℕ} : Plain n null
  | bool {n : ℕ} (b : Bool) : Plain n (bool b)
  | number {n : ℕ} {x : Number} (finite : x.isFinite = true) : Plain n (number x)
  | string {n : ℕ} (s : String) : Plain n (string s)
  | array {n : ℕ} {items : List Value} (each : ∀ item ∈ items, Plain n item) :
      Plain (n + 1) (array items)
  | object {n : ℕ} {fields : List (String × Value)} (sorted : Keyed.Ascending fields)
      (each : ∀ entry ∈ fields, Plain n entry.2) : Plain (n + 1) (object fields)

mutual

/-- The doubles of a value that are not written as integers. -/
def doubles : Value → List Double
  | number (.float d) => if (Number.float d).toInt?.isNone then [d] else []
  | array items => itemDoubles items
  | object fields => fieldDoubles fields
  | _ => []

/-- The doubles of items. -/
def itemDoubles : List Value → List Double
  | [] => []
  | v :: rest => v.doubles ++ itemDoubles rest

/-- The doubles of fields. -/
def fieldDoubles : List (String × Value) → List Double
  | [] => []
  | (_, v) :: rest => v.doubles ++ fieldDoubles rest

end

theorem mem_itemDoubles {d : Double} {item : Value} {items : List Value} (mem : item ∈ items)
    (h : d ∈ item.doubles) : d ∈ itemDoubles items := by
  induction items with
  | nil => simp at mem
  | cons v rest ih =>
      rw [itemDoubles, List.mem_append]
      rcases List.mem_cons.1 mem with rfl | mem
      · exact .inl h
      · exact .inr (ih mem)

theorem mem_fieldDoubles {d : Double} {entry : String × Value} {fields : List (String × Value)}
    (mem : entry ∈ fields) (h : d ∈ entry.2.doubles) : d ∈ fieldDoubles fields := by
  induction fields with
  | nil => simp at mem
  | cons first rest ih =>
      rw [fieldDoubles, List.mem_append]
      rcases List.mem_cons.1 mem with rfl | mem
      · exact .inl h
      · exact .inr (ih mem)

mutual

/-- The tokens of a value. -/
def tokens : Value → List Token
  | null => [.null]
  | bool b => [.bool b]
  | number n => [.number n.literal]
  | string s => [.string s]
  | array items => .openArray :: (itemTokens items ++ [.closeArray])
  | object fields => .openObject :: (fieldTokens fields ++ [.closeObject])
  | undefined => [.string undefinedText]

/-- The tokens of items, with commas between them. -/
def itemTokens : List Value → List Token
  | [] => []
  | [v] => v.tokens
  | v :: w :: rest => v.tokens ++ .comma :: itemTokens (w :: rest)

/-- The tokens of fields, with commas between them. -/
def fieldTokens : List (String × Value) → List Token
  | [] => []
  | [(k, v)] => .string k :: .colon :: v.tokens
  | (k, v) :: w :: rest => .string k :: .colon :: (v.tokens ++ .comma :: fieldTokens (w :: rest))

end

mutual

/-- The document of a value. -/
def document : Value → Json
  | null => .null
  | bool b => .bool b
  | number n => .number n.literal
  | string s => .string s
  | array items => .array (itemDocuments items)
  | object fields => .object (fieldDocuments fields)
  | undefined => .string undefinedText

/-- The documents of items. -/
def itemDocuments : List Value → List Json
  | [] => []
  | v :: rest => v.document :: itemDocuments rest

/-- The documents of fields. -/
def fieldDocuments : List (String × Value) → List (String × Json)
  | [] => []
  | (k, v) :: rest => (k, v.document) :: fieldDocuments rest

end

/-! ### Texts -/

section

variable {text more : List Char} {ts us : List Token}

theorem endsNumber_cons {c : Char} (rest : List Char)
    (h : c.isDigit = false ∧ c ≠ '.' ∧ c ≠ 'e' ∧ c ≠ 'E') : EndsNumber (c :: rest) := by
  rintro _ ⟨rfl⟩
  exact h

theorem lexes_comma (first : Lexes text ts) (later : Lexes more us) :
    Lexes (text ++ ',' :: more) (ts ++ .comma :: us) :=
  first.append (.mark rfl (fun _ => rfl) later) (endsNumber_cons _ (by decide))

theorem lexes_array (h : Lexes text ts) :
    Lexes ('[' :: (text ++ [']'])) (.openArray :: (ts ++ [.closeArray])) :=
  .mark rfl (fun _ => rfl) (h.append (.mark rfl (fun _ => rfl) .nil) (endsNumber_cons _ (by decide)))

theorem lexes_object (h : Lexes text ts) :
    Lexes ('\x7b' :: (text ++ ['\x7d'])) (.openObject :: (ts ++ [.closeObject])) :=
  .mark rfl (fun _ => rfl) (h.append (.mark rfl (fun _ => rfl) .nil) (endsNumber_cons _ (by decide)))

/-- Blanks before a text change nothing. -/
theorem lexes_gaps {gaps : List Char} (blank : ∀ c ∈ gaps, Json.isGap c = true)
    (h : Lexes text ts) : Lexes (gaps ++ text) ts := by
  induction gaps with
  | nil => exact h
  | cons c rest ih =>
      obtain ⟨first, later⟩ := List.forall_mem_cons.1 blank
      exact .gap first (ih later)

theorem endsNumber_gaps {gaps : List Char} (blank : ∀ c ∈ gaps, Json.isGap c = true) :
    EndsNumber gaps := by
  intro c first
  have gap := blank c (List.mem_of_head? first)
  simp only [Json.isGap, Bool.or_eq_true, beq_iff_eq] at gap
  rcases gap with ((rfl | rfl) | rfl) | rfl <;> decide

/-- Blanks after a text change nothing. -/
theorem lexes_append_gaps {gaps : List Char} (blank : ∀ c ∈ gaps, Json.isGap c = true)
    (h : Lexes text ts) : Lexes (text ++ gaps) ts := by
  have ended := h.append (lexes_gaps blank .nil) (by simpa using endsNumber_gaps blank)
  rwa [List.append_nil, List.append_nil] at ended

end

end Value

/-- The form only adds blanks: at the start of a line, and behind a colon. -/
structure Json.Form.Blank (form : Json.Form) : Prop where
  lineBreak : ∀ level, ∀ c ∈ form.lineBreak level, isGap c = true
  colon : ∃ gaps, form.colon = ':' :: gaps ∧ ∀ c ∈ gaps, isGap c = true

theorem Json.Form.blank_compact : Form.compact.Blank := ⟨by simp [compact], [], rfl, by simp⟩

theorem Json.Form.blank_pretty : Form.pretty.Blank where
  lineBreak level := by
    rw [pretty, List.forall_mem_cons]
    exact ⟨rfl, fun c mem => List.eq_of_mem_replicate mem ▸ rfl⟩
  colon := ⟨[' '], rfl, by simp [isGap]⟩

namespace Value

section

variable {form : Json.Form} {level : ℕ} {text : List Char} {ts : List Token}

theorem lexes_entry (blank : form.Blank) (k : String) (h : Lexes text ts) :
    Lexes (Json.quoted k ++ (form.colon ++ text)) (.string k :: .colon :: ts) := by
  obtain ⟨gaps, colon, gap⟩ := blank.colon
  rw [colon, List.cons_append]
  exact (Json.lexes_quoted k).append (.mark rfl (fun _ => rfl) (lexes_gaps gap h))
    (endsNumber_cons _ (by decide))

theorem lexes_ending {α : Type} (blank : form.Blank) (items : List α) (h : Lexes text ts) :
    Lexes (text ++ form.ending level items) ts := by
  rw [Json.Form.ending]
  split
  · rwa [List.append_nil]
  · exact lexes_append_gaps (blank.lineBreak level) h

theorem lexes_itemTexts (blank : form.Blank) {items : List Value}
    (each : ∀ item ∈ items, Lexes (item.text form level) item.tokens) :
    Lexes (itemTexts form level items) (itemTokens items) := by
  induction items with
  | nil => exact .nil
  | cons v rest ih =>
      have first := each v List.mem_cons_self
      have later := ih fun item mem => each item (List.mem_cons_of_mem _ mem)
      cases rest with
      | nil => exact lexes_gaps (blank.lineBreak level) first
      | cons w rest => exact lexes_gaps (blank.lineBreak level) (lexes_comma first later)

theorem lexes_fieldTexts (blank : form.Blank) {fields : List (String × Value)}
    (each : ∀ entry ∈ fields, Lexes (entry.2.text form level) entry.2.tokens) :
    Lexes (fieldTexts form level fields) (fieldTokens fields) := by
  induction fields with
  | nil => exact .nil
  | cons entry rest ih =>
      have first := each entry List.mem_cons_self
      have later := ih fun entry mem => each entry (List.mem_cons_of_mem _ mem)
      cases rest with
      | nil => exact lexes_gaps (blank.lineBreak level) (lexes_entry blank entry.1 first)
      | cons w rest =>
          exact lexes_gaps (blank.lineBreak level)
            (lexes_entry blank entry.1 (lexes_comma first later))

end

/-- The text of a value has its tokens, at whatever level it is written. -/
theorem lexes_text {form : Json.Form} (blank : form.Blank) {n : ℕ} {v : Value} (h : v.Plain n)
    (assumed : ∀ d ∈ v.doubles, d.ReadsBack) (level : ℕ) : Lexes (v.text form level) v.tokens := by
  induction h generalizing level with
  | null => exact Json.lexes_null
  | bool b => exact Json.lexes_bool b
  | number finite =>
      refine Json.lexes_json finite ?_
      rintro d rfl large
      exact assumed d (by simp [doubles, large])
  | string s => exact Json.lexes_quoted s
  | @array n items each ih =>
      refine lexes_array (lexes_ending blank items (lexes_itemTexts blank fun item mem => ?_))
      exact ih item mem (fun d inside => assumed d (mem_itemDoubles mem inside)) (level + 1)
  | @object n fields sorted each ih =>
      refine lexes_object (lexes_ending blank fields (lexes_fieldTexts blank fun entry mem => ?_))
      exact ih entry mem (fun d inside => assumed d (mem_fieldDoubles mem inside)) (level + 1)

end Value

/-! ### The reader -/

namespace Json.State

variable {limit n : ℕ} {stack : List Frame}

theorem run_append (s : State) (ts us : List Token) :
    run limit s (ts ++ us) = (run limit s ts).bind fun s' => run limit s' us := by
  induction ts generalizing s with
  | nil => rfl
  | cons t ts ih =>
      simp only [List.cons_append, run]
      cases s.step limit t with
      | none => rfl
      | some s' => exact ih s'

/-- The first item of an array is read as any other. -/
theorem run_firstItem (v : Value) (rest : List Value) (ts : List Token) :
    run limit (firstItem stack) (Value.itemTokens (v :: rest) ++ ts) =
      run limit (value (.array [] :: stack)) (Value.itemTokens (v :: rest) ++ ts) := by
  have first (us : List Token) :
      run limit (firstItem stack) (v.tokens ++ us) =
        run limit (value (.array [] :: stack)) (v.tokens ++ us) := by
    cases v <;> rfl
  cases rest with
  | nil => exact first ts
  | cons w rest =>
      rw [Value.itemTokens, List.append_assoc]
      exact first _

/-- The first field of an object is read as any other. -/
theorem run_firstKey (entry : String × Value) (rest : List (String × Value)) (ts : List Token) :
    run limit (firstKey stack) (Value.fieldTokens (entry :: rest) ++ ts) =
      run limit (key [] stack) (Value.fieldTokens (entry :: rest) ++ ts) := by
  cases rest <;> rfl

/-- The reader takes the tokens of a value for its document. -/
def Builds (limit n : ℕ) (v : Value) : Prop :=
  ∀ stack : List Frame, stack.length + n ≤ limit →
    run limit (value stack) v.tokens = some (deliver v.document stack)

theorem Builds.run_append {v : Value} (h : Builds limit n v) (room : stack.length + n ≤ limit)
    (ts : List Token) :
    run limit (value stack) (v.tokens ++ ts) = run limit (deliver v.document stack) ts := by
  rw [State.run_append, h stack room, Option.bind_some]

/-- Items, after those that were read before. -/
theorem run_itemTokens {items : List Value} (read : List Json) (v : Value)
    (each : ∀ item ∈ v :: items, Builds limit n item) (room : stack.length + (n + 1) ≤ limit) :
    run limit (value (.array read :: stack)) (Value.itemTokens (v :: items) ++ [.closeArray]) =
      some (deliver (.array (read.reverse ++ Value.itemDocuments (v :: items))) stack) := by
  have first := each v List.mem_cons_self
  have inside : (Frame.array read :: stack).length + n ≤ limit := by
    rw [List.length_cons]
    omega
  induction items generalizing v read with
  | nil =>
      rw [Value.itemTokens, first.run_append inside]
      simp [deliver, run, step, Value.itemDocuments]
  | cons w rest ih =>
      have later := ih (v.document :: read) w (fun item mem => each item (List.mem_cons_of_mem _ mem))
        (each w (by simp)) inside
      rw [Value.itemTokens, List.append_assoc, first.run_append inside]
      rw [List.reverse_cons, List.append_assoc] at later
      exact later

/-- Fields, after those that were read before. -/
theorem run_fieldTokens {fields : List (String × Value)} (read : List (String × Json))
    (entry : String × Value) (each : ∀ entry' ∈ entry :: fields, Builds limit n entry'.2)
    (room : stack.length + (n + 1) ≤ limit) :
    run limit (key read stack) (Value.fieldTokens (entry :: fields) ++ [.closeObject]) =
      some (deliver (.object (read.reverse ++ Value.fieldDocuments (entry :: fields))) stack) := by
  have first := each entry List.mem_cons_self
  have inside : (Frame.object read entry.1 :: stack).length + n ≤ limit := by
    rw [List.length_cons]
    omega
  induction fields generalizing entry read with
  | nil =>
      change run limit (value (.object read entry.1 :: stack)) (entry.2.tokens ++ [.closeObject]) = _
      rw [first.run_append inside]
      simp [deliver, run, step, Value.fieldDocuments]
  | cons w rest ih =>
      have later := ih ((entry.1, entry.2.document) :: read) w
        (fun item mem => each item (List.mem_cons_of_mem _ mem)) (each w (by simp)) inside
      change run limit (value (.object read entry.1 :: stack))
        (entry.2.tokens ++ .comma :: Value.fieldTokens (w :: rest) ++ [.closeObject]) = _
      rw [List.append_assoc, first.run_append inside]
      rw [List.reverse_cons, List.append_assoc] at later
      exact later

/-- The reader builds the document of a value from its tokens. -/
theorem run_tokens {v : Value} (h : v.Plain n) : Builds limit n v := by
  induction h with
  | null | bool | number | string => exact fun _ _ => rfl
  | @array n items each ih =>
      intro stack room
      have opened : run limit (value stack) (Value.array items).tokens =
          run limit (firstItem stack) (Value.itemTokens items ++ [.closeArray]) := by
        simp only [Value.tokens, run, step, start, if_pos (show stack.length < limit by omega)]
      rw [opened]
      cases items with
      | nil => rfl
      | cons v rest =>
          rw [run_firstItem]
          exact run_itemTokens [] v ih room
  | @object n fields sorted each ih =>
      intro stack room
      have opened : run limit (value stack) (Value.object fields).tokens =
          run limit (firstKey stack) (Value.fieldTokens fields ++ [.closeObject]) := by
        simp only [Value.tokens, run, step, start, if_pos (show stack.length < limit by omega)]
      rw [opened]
      cases fields with
      | nil => rfl
      | cons entry rest =>
          rw [run_firstKey]
          exact run_fieldTokens [] entry ih room

end Json.State

/-! ### Values -/

/-- A key after all others is written at the end. -/
theorem Keyed.put_of_forall_lt {κ α : Type} [Ord κ] [Std.TransOrd κ] {key : κ} {value : α}
    {entries : List (κ × α)} (last : ∀ entry ∈ entries, Ord.compare entry.1 key = .lt) :
    put key value entries = entries ++ [(key, value)] := by
  induction entries with
  | nil => rfl
  | cons first rest ih =>
      have after : Ord.compare key first.1 = .gt :=
        Std.OrientedCmp.gt_of_lt (last first List.mem_cons_self)
      rw [put, after, ih fun entry mem => last entry (List.mem_cons_of_mem _ mem), List.cons_append]

/-- Sorted entries make the sorted map that they are. -/
theorem Keyed.ofList_of_ascending {κ α : Type} [Ord κ] [Std.TransOrd κ] {entries : List (κ × α)}
    (sorted : Ascending entries) : ofList entries = entries := by
  have grow (written : List (κ × α)) (h : Ascending (written ++ entries)) :
      entries.foldl (fun m entry => put entry.1 entry.2 m) written = written ++ entries := by
    clear sorted
    induction entries generalizing written with
    | nil => simp
    | cons first rest ih =>
        have last : ∀ entry ∈ written, Ord.compare entry.1 first.1 = .lt := fun entry mem =>
          (List.pairwise_append.1 h).2.2 entry mem first List.mem_cons_self
        rw [List.append_cons] at h
        rw [List.foldl_cons, put_of_forall_lt last, ih _ h, List.append_assoc, List.singleton_append]
  exact grow [] sorted

namespace Value

theorem entryValues_fieldDocuments (fields : List (String × Value)) :
    Json.entryValues (fieldDocuments fields) =
      fields.map fun entry => (entry.1, entry.2.document.toValue) := by
  induction fields with
  | nil => rfl
  | cons entry rest ih => rw [fieldDocuments, Json.entryValues, ih, List.map_cons]

theorem equalItems_itemValues {items : List Value}
    (each : ∀ item ∈ items, (item.document.toValue == item) = true) :
    equalItems (Json.itemValues (itemDocuments items)) items = true := by
  induction items with
  | nil => rfl
  | cons v rest ih =>
      rw [itemDocuments, Json.itemValues, equalItems, Bool.and_eq_true]
      exact ⟨each v List.mem_cons_self, ih fun item mem => each item (List.mem_cons_of_mem _ mem)⟩

theorem equalFields_map {fields : List (String × Value)}
    (each : ∀ entry ∈ fields, (entry.2.document.toValue == entry.2) = true) :
    equalFields (fields.map fun entry => (entry.1, entry.2.document.toValue)) fields = true := by
  induction fields with
  | nil => rfl
  | cons entry rest ih =>
      rw [List.map_cons, equalFields, Bool.and_eq_true, Bool.and_eq_true]
      exact ⟨⟨beq_self_eq_true _, each entry List.mem_cons_self⟩,
        ih fun entry mem => each entry (List.mem_cons_of_mem _ mem)⟩

/-- The document of a value denotes the value. -/
theorem document_beq {n : ℕ} {v : Value} (h : v.Plain n) : (v.document.toValue == v) = true := by
  induction h with
  | null => rfl
  | bool b => exact beq_self_eq_true b
  | number finite => exact Number.literal_beq _ finite
  | string s => exact beq_self_eq_true s
  | array each ih => exact equalItems_itemValues ih
  | object sorted each ih =>
      rw [document, Json.toValue, record, entryValues_fieldDocuments, Keyed.ofList_of_ascending]
      · exact equalFields_map ih
      · exact List.pairwise_map.2 sorted

/-- Both texts of a plain value are read, and the value that is read equals the written one, if each
double in it that is not written as an integer is read back from its text. -/
theorem texts_read_back {v : Value} (plain : v.Plain 127)
    (assumed : ∀ d ∈ v.doubles, d.ReadsBack) :
    (∃ w, ofJson? v.display = some w ∧ (w == v) = true) ∧
      ∃ w, ofJson? v.toJson = some w ∧ (w == v) = true := by
  have read {text : List Char} (lexes : Lexes text v.tokens) :
      ofJson? (String.ofList text) = some v.document.toValue := by
    have run : Json.State.run Json.depthLimit (.value []) v.tokens = some (.done v.document) :=
      Json.State.run_tokens plain [] (le_refl 127)
    have built : Json.ofTokens? Json.depthLimit v.tokens = some v.document := by
      rw [Json.ofTokens?, run]
    simp only [ofJson?, Json.read?, String.toList_ofList, lexes.tokens_eq, built, Option.map_some]
  exact ⟨⟨_, read (lexes_text Json.Form.blank_compact plain assumed 0), document_beq plain⟩,
    ⟨_, read (lexes_text Json.Form.blank_pretty plain assumed 0), document_beq plain⟩⟩

/-- A value with an escaped name, a double beyond `2 ^ 53`, a fraction and an empty object. -/
def parcel : Value :=
  .object
    [("\"\\\x01", .array [.number (.int (-7)), .number (.float (.ofInt 1152921504606846976)), .null]),
      ("b", .object []), ("c", .number (.float (.ofDecimal true 15 (-1))))]

theorem plain_parcel : parcel.Plain 127 := by
  refine .object (by decide) fun entry mem => ?_
  simp only [List.mem_cons, List.not_mem_nil, or_false] at mem
  rcases mem with rfl | rfl | rfl
  · refine .array fun item mem => ?_
    simp only [List.mem_cons, List.not_mem_nil, or_false] at mem
    rcases mem with rfl | rfl | rfl
    · exact .number rfl
    · exact .number (by decide +kernel)
    · exact .null
  · exact .object List.Pairwise.nil nofun
  · exact .number (by decide +kernel)

theorem texts_read_back_parcel :
    parcel.Plain 127 ∧ (∀ d ∈ parcel.doubles, d.ReadsBack) ∧
      (∃ w, ofJson? parcel.display = some w ∧ (w == parcel) = true) ∧
      ∃ w, ofJson? parcel.toJson = some w ∧ (w == parcel) = true :=
  have back : ∀ d ∈ parcel.doubles, d.ReadsBack := by decide +kernel
  ⟨plain_parcel, back, texts_read_back plain_parcel back⟩

end Value

end ProvenShapes
