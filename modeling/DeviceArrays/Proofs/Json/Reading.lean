import DeviceArrays.Proofs.Json.Scanning

/-!
# Reading JSON values

The reader takes the tokens of a value for this value, and takes no other tokens. Every state of the
reader stands for the tokens that have led to it, so a value is read from its own tokens alone.
Together with the scanner this gives `ofText?_eq_some_iff`: a text is read as the value it stands
for.
-/
namespace DeviceArrays.Json

variable {r s : Reader} {t : Token} {ts us : List Token} {frames outer : List Frame} {j : Json}
  {items : List Json} {members : List (List UInt16 × Json)} {key : List UInt16}

/-! ### The tokens of a value are read -/

/-- The reader goes from one state to another along some tokens. -/
def Reads (r : Reader) (ts : List Token) (s : Reader) : Prop := ts.foldlM Reader.step r = some s

theorem Reads.cons {next : Reader} (step : r.step t = some next) (later : Reads next ts s) :
    Reads r (t :: ts) s := by
  unfold Reads
  rw [List.foldlM_cons, step]
  exact later

theorem Reads.append {next : Reader} (first : Reads r ts next) (later : Reads next us s) :
    Reads r (ts ++ us) s := by
  unfold Reads at first
  unfold Reads
  rw [List.foldlM_append, first]
  exact later

theorem reads_single (step : r.step t = some s) : Reads r [t] s := .cons step rfl

/-- A value does not begin with a closing bracket. -/
theorem exists_tokens_cons (j : Json) : ∃ t ts, j.tokens = t :: ts ∧ t ≠ .closeBracket := by
  cases j <;> exact ⟨_, _, rfl, nofun⟩

theorem exists_itemTokens_cons (item : Json) (items : List Json) :
    ∃ t ts, itemTokens (item :: items) = t :: ts ∧ t ≠ .closeBracket := by
  obtain ⟨t, ts, front, open_⟩ := exists_tokens_cons item
  cases items with
  | nil => exact ⟨t, ts, front, open_⟩
  | cons next rest => exact ⟨t, _, by rw [itemTokens, front]; rfl, open_⟩

/-- Where an array has just begun, an item may stand as well as its end. -/
theorem reads_valueOrEnd (other : t ≠ .closeBracket)
    (read : Reads ⟨frames, .value⟩ (t :: ts) s) : Reads ⟨frames, .valueOrEnd⟩ (t :: ts) s := by
  have step : Reader.step ⟨frames, .valueOrEnd⟩ t = Reader.step ⟨frames, .value⟩ t := by
    rw [Reader.step.eq_def]
    split <;> simp_all [Reader.step]
  unfold Reads at read ⊢
  rwa [List.foldlM_cons, step, ← List.foldlM_cons]

mutual

theorem reads_value : (j : Json) → (frames : List Frame) →
    Reads ⟨frames, .value⟩ j.tokens (.put frames j)
  | .null, _ | .truth _, _ | .number _, _ | .text _, _ | .array [], _ | .object [], _ => rfl
  | .array (item :: items), frames => by
    have inside := reads_items (item :: items) (by simp) [] frames
    obtain ⟨t, ts, front, other⟩ := exists_itemTokens_cons item items
    rw [front] at inside
    rw [tokens, front]
    refine .cons rfl ((reads_valueOrEnd other inside).append (reads_single ?_))
    simp [Reader.step]
  | .object (member :: members), frames => by
    obtain ⟨key, inside⟩ := reads_members (member :: members) (by simp) [] true frames
    rw [tokens]
    refine .cons rfl (inside.append (reads_single ?_))
    simp [Reader.step]

theorem reads_items : (items : List Json) → items ≠ [] → (before : List Json) →
    (outer : List Frame) → Reads ⟨.array before :: outer, .value⟩ (itemTokens items)
      ⟨.array (items.reverse ++ before) :: outer, .commaOrEnd⟩
  | [item], _, before, outer => reads_value item (.array before :: outer)
  | item :: next :: rest, _, before, outer => by
    have later := reads_items (next :: rest) (by simp) (item :: before) outer
    rw [itemTokens, List.reverse_cons, List.append_assoc]
    exact (reads_value item (.array before :: outer)).append (.cons rfl later)

theorem reads_members : (members : List (List UInt16 × Json)) → members ≠ [] →
    (before : List (List UInt16 × Json)) → (first : Bool) → (outer : List Frame) →
    ∃ key, Reads ⟨outer, .key before first⟩ (memberTokens members)
      ⟨.object (members.reverse ++ before) key :: outer, .commaOrEnd⟩
  | [(key, value)], _, before, first, outer =>
    ⟨key, .cons rfl (.cons rfl (reads_value value (.object before key :: outer)))⟩
  | (key, value) :: next :: rest, _, before, first, outer => by
    obtain ⟨last, later⟩ :=
      reads_members (next :: rest) (by simp) ((key, value) :: before) false outer
    refine ⟨last, ?_⟩
    rw [memberTokens, List.reverse_cons, List.append_assoc]
    have read := reads_value value (.object before key :: outer)
    exact .cons rfl (.cons rfl (read.append (.cons rfl later)))

end

/-! ### Nothing else is read as the value -/

/-- Items that have been read, with a comma behind each. The latest stands first. -/
def itemsBefore (items : List Json) : List Token :=
  items.reverse.flatMap fun item => item.tokens ++ [.comma]

/-- Members that have been read, with a comma behind each. The latest stands first. -/
def membersBefore (members : List (List UInt16 × Json)) : List Token :=
  members.reverse.flatMap fun (key, value) => .text key :: .colon :: value.tokens ++ [.comma]

/-- What has been read where a value is to begin inside of some frames. -/
def opening : List Frame → List Token
  | [] => []
  | .array items :: outer => opening outer ++ .openBracket :: itemsBefore items
  | .object members key :: outer =>
    opening outer ++ .openBrace :: membersBefore members ++ [.text key, .colon]

/-- What has been read in a state of the reader. -/
inductive Reader.Consumed : Reader → List Token → Prop
  | value (frames : List Frame) : Consumed ⟨frames, .value⟩ (opening frames)
  | valueOrEnd (outer : List Frame) :
      Consumed ⟨.array [] :: outer, .valueOrEnd⟩ (opening (.array [] :: outer))
  | key (frames : List Frame) {members : List (List UInt16 × Json)} {first : Bool}
      (none : first = true → members = []) :
      Consumed ⟨frames, .key members first⟩ (opening frames ++ .openBrace :: membersBefore members)
  | colon (outer : List Frame) (members : List (List UInt16 × Json)) (key : List UInt16) :
      Consumed ⟨.object members key :: outer, .colon⟩
        (opening outer ++ .openBrace :: membersBefore members ++ [.text key])
  | item (outer : List Frame) (item : Json) (items : List Json) :
      Consumed ⟨.array (item :: items) :: outer, .commaOrEnd⟩
        (opening outer ++ .openBracket :: (itemsBefore items ++ item.tokens))
  | member (outer : List Frame) (key : List UInt16) (value : Json)
      (members : List (List UInt16 × Json)) (last : List UInt16) :
      Consumed ⟨.object ((key, value) :: members) last :: outer, .commaOrEnd⟩
        (opening outer ++ .openBrace ::
          (membersBefore members ++ .text key :: .colon :: value.tokens))
  | done (j : Json) : Consumed ⟨[], .nothing j⟩ j.tokens

theorem itemTokens_append (items : List Json) (item : Json) : itemTokens (items ++ [item]) =
    items.flatMap (fun item => item.tokens ++ [.comma]) ++ item.tokens := by
  induction items with
  | nil => rfl
  | cons first rest ih =>
    cases rest with
    | nil => simp [itemTokens]
    | cons next rest =>
      rw [List.cons_append, List.cons_append, itemTokens, ← List.cons_append, ih]
      simp

theorem memberTokens_append (members : List (List UInt16 × Json)) (key : List UInt16)
    (value : Json) : memberTokens (members ++ [(key, value)]) =
      members.flatMap (fun (key, value) => .text key :: .colon :: value.tokens ++ [.comma]) ++
        .text key :: .colon :: value.tokens := by
  induction members with
  | nil => rfl
  | cons first rest ih =>
    obtain ⟨k, v⟩ := first
    cases rest with
    | nil => simp [memberTokens]
    | cons next rest =>
      rw [List.cons_append, List.cons_append, memberTokens, ← List.cons_append, ih]
      simp

namespace Reader.Consumed

theorem put (frames : List Frame) (j : Json) :
    (Reader.put frames j).Consumed (opening frames ++ j.tokens) := by
  cases frames with
  | nil => exact .done j
  | cons frame outer =>
    cases frame with
    | array items =>
      have read := Consumed.item outer j items
      simpa [opening, Reader.put] using read
    | object members key =>
      have read := Consumed.member outer key j members key
      simpa [opening, Reader.put] using read

theorem begin (frames : List Frame) (begun : Reader.begin frames t = some s) :
    s.Consumed (opening frames ++ [t]) := by
  cases t with
  | null | truth | number | text =>
    cases begun
    exact .put frames _
  | openBracket =>
    cases begun
    exact .valueOrEnd frames
  | openBrace =>
    cases begun
    exact .key frames fun _ => rfl
  | _ => cases begun

/-- One token more. -/
theorem step (consumed : r.Consumed ts) (moved : r.step t = some s) : s.Consumed (ts ++ [t]) := by
  cases consumed with
  | value frames => exact .begin frames moved
  | valueOrEnd outer =>
    by_cases closed : t = .closeBracket
    · subst closed
      cases moved
      have read := Consumed.put outer (.array [])
      simpa [opening, itemsBefore, tokens, itemTokens] using read
    · have begun : Reader.begin (.array [] :: outer) t = some s := by
        cases t <;> first | exact moved | exact absurd rfl closed
      exact .begin _ begun
  | @key frames members first none =>
    cases t with
    | text key =>
      cases moved
      have read := Consumed.colon frames members key
      simpa using read
    | closeBrace =>
      cases first with
      | true =>
        obtain rfl := none rfl
        cases moved
        have read := Consumed.put frames (.object [])
        simpa [membersBefore, tokens, memberTokens] using read
      | false => cases moved
    | _ => cases first <;> cases moved
  | colon outer members key =>
    cases t with
    | colon =>
      cases moved
      have read := Consumed.value (.object members key :: outer)
      simpa [opening] using read
    | _ => cases moved
  | item outer item items =>
    cases t with
    | comma =>
      cases moved
      have read := Consumed.value (.array (item :: items) :: outer)
      simpa [opening, itemsBefore] using read
    | closeBracket =>
      cases moved
      have read := Consumed.put outer (.array (item :: items).reverse)
      simpa [tokens, itemTokens_append, itemsBefore] using read
    | _ => cases moved
  | member outer key value members last =>
    cases t with
    | comma =>
      cases moved
      have read : (Reader.mk outer (.key ((key, value) :: members) false)).Consumed _ :=
        .key outer nofun
      simpa [membersBefore] using read
    | closeBrace =>
      cases moved
      have read := Consumed.put outer (.object ((key, value) :: members).reverse)
      simpa [tokens, memberTokens_append, membersBefore] using read
    | _ => cases moved
  | done j => cases t <;> cases moved

theorem reads (consumed : r.Consumed ts) (read : Reads r us s) : s.Consumed (ts ++ us) := by
  induction us generalizing r ts with
  | nil =>
    cases read
    simpa using consumed
  | cons t us ih =>
    unfold Reads at read
    rw [List.foldlM_cons] at read
    obtain ⟨next, moved, read⟩ := Option.bind_eq_some_iff.mp read
    simpa using ih (consumed.step moved) read

end Reader.Consumed

/-- A value is read from its own tokens, and from no others. -/
theorem reads_value_iff : (∃ frames, Reads ⟨[], .value⟩ ts ⟨frames, .nothing j⟩) ↔
    ts = j.tokens := by
  constructor
  · rintro ⟨frames, read⟩
    have consumed := (Reader.Consumed.value []).reads read
    rw [opening, List.nil_append] at consumed
    cases consumed
    rfl
  · rintro rfl
    exact ⟨[], reads_value j []⟩

/-- A text is read as a value exactly if it stands for this value. -/
theorem ofText?_eq_some_iff {text : String} : ofText? text = some j ↔ j.Spells text := by
  rw [Spells, ← tokens?_eq_some_iff]
  constructor
  · intro read
    obtain ⟨ts, tokenized, read⟩ := Option.bind_eq_some_iff.mp read
    obtain ⟨⟨frames, expecting⟩, reads, same⟩ := Option.bind_eq_some_iff.mp read
    cases expecting <;> cases same
    rw [tokenized, reads_value_iff.mp ⟨frames, reads⟩]
  · intro tokenized
    obtain ⟨frames, reads⟩ := reads_value_iff.mpr (Eq.refl j.tokens)
    exact Option.bind_eq_some_iff.mpr
      ⟨_, tokenized, Option.bind_eq_some_iff.mpr ⟨_, reads, rfl⟩⟩

end DeviceArrays.Json
