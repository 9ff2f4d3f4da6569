import Mathlib.Data.List.Forall2
import ContainRes.Api.PayloadLogging

/-! # Reading payloads that differ only in secrets

Two payloads that differ only in secrets are read together, and what is then written of them is compared.

* **`SecretValues`** — two values of a secret. A secret is a field of the payload, of its user or its tokens,
  or of a user in its listing (`PayloadAlike`).
* **`Outcomes`** — two readings fail together, or their results are related exactly under a condition.
* **`readModel_outcomes`** — the fields of a type, one by one.
* **`getPayloadAs_outcomes`**, `onePart_outcomes`, … — the payloads of the types that are masked. -/

namespace ContainRes.Api.Payloads

open Text

/-! ## Payloads that differ only in secrets -/

/-- The fields with a password, a token, a code, a client secret or the content of a file. -/
def secretTexts : List String :=
  ["password", "old_password", "new_password", "access_token", "id_token", "refresh_token",
    "authorization_code", "confirmation_code", "oidc_client_secret", "content"]

/-- Two values of a secret. Keys have one length, and the lines of a file are a list. -/
def SecretValues (key : String) (v w : Json) : Prop :=
  (key ∈ secretTexts ∧ ∃ s t, v = .str s ∧ w = .str t) ∨
  (key = "key_material" ∧ ∃ s t, v = .str s ∧ w = .str t ∧ s.length = t.length) ∨
  (key = "lines" ∧ ∃ xs ys : List String, v = .arr (.ofList (xs.map .str)) ∧ w = .arr (.ofList (ys.map .str)))

/-- Two objects that differ only in secrets among their fields. -/
def RecordAlike (v w : Json) : Prop :=
  v = w ∨ ∃ f g, v = .obj f ∧ w = .obj g ∧ Fields.Pointwise (fun k v w => v = w ∨ SecretValues k v w) f g

/-- Two values of a field of a payload. -/
def FieldAlike (key : String) (v w : Json) : Prop :=
  v = w ∨ SecretValues key v w ∨ (key ∈ ["user", "auth"] ∧ RecordAlike v w) ∨
    (key = "listing" ∧ ∃ xs ys, v = .arr (.ofList xs) ∧ w = .arr (.ofList ys) ∧ xs.Forall₂ RecordAlike ys)

/-- Two payloads that differ only in secrets. -/
def PayloadAlike (p q : Fields) : Prop := p.Pointwise FieldAlike q

/-- Two dicts that differ only in secrets of their payloads. -/
def DictAlike (r s : Fields) : Prop :=
  r = s ∨ ∃ p q, r.get? "payload" = some (.obj p) ∧ PayloadAlike p q ∧ s = r.set "payload" (.obj q)

/-! ## Readings with related outcomes -/

/-- Both fail, or both succeed and the results are related exactly if a proposition holds. -/
def Outcomes {α : Type} (r s : Except Exc α) (E : α → α → Prop) (P : Prop) : Prop :=
  (∃ e e', r = .error e ∧ s = .error e') ∨ ∃ a b, r = .ok a ∧ s = .ok b ∧ (E a b ↔ P)

namespace Outcomes

variable {α β : Type} {r s : Except Exc α} {E : α → α → Prop} {P : Prop}

theorem same {f : α → β} (hP : P) (r : Except Exc α) : Outcomes r r (fun a b => f a = f b) P := by
  cases r with
  | error e => exact .inl ⟨e, e, rfl, rfl⟩
  | ok a => exact .inr ⟨a, a, rfl, rfl, iff_of_true rfl hP⟩

theorem of_ok {a b : α} (h : E a b ↔ P) : Outcomes (.ok a) (.ok b) E P := .inr ⟨a, b, rfl, rfl, h⟩

theorem congr {Q : Prop} (h : Outcomes r s E P) (hPQ : P ↔ Q) : Outcomes r s E Q := by
  rwa [← hPQ]

theorem ignore (h : Outcomes r s E P) : Outcomes r s (fun _ _ => True) True := by
  rcases h with ⟨e, e', rfl, rfl⟩ | ⟨a, b, rfl, rfl, -⟩
  · exact .inl ⟨e, e', rfl, rfl⟩
  · exact of_ok Iff.rfl

/-- A function of the results that may have no value: it is the same for both exactly if, where they can be
read, the proposition holds. -/
theorem bind_toOption_iff {F : α → Option β} (h : Outcomes r s (fun a b => F a = F b) P) :
    r.toOption.bind F = s.toOption.bind F ↔ (r.isOk = true → P) := by
  rcases h with ⟨e, e', rfl, rfl⟩ | ⟨a, b, rfl, rfl, hE⟩
  · simp [Except.toOption, Except.isOk, Except.toBool]
  · simpa [Except.toOption, Except.isOk, Except.toBool] using hE

/-- A function of the results, with a relation that says the same of its values. -/
theorem map {F : β → β → Prop} {f : α → β} (h : Outcomes r s E P)
    (hF : ∀ a b, r = .ok a → s = .ok b → (F (f a) (f b) ↔ E a b)) : Outcomes (r.map f) (s.map f) F P := by
  rcases h with ⟨e, e', rfl, rfl⟩ | ⟨a, b, rfl, rfl, hE⟩
  · exact .inl ⟨e, e', rfl, rfl⟩
  · exact .inr ⟨f a, f b, rfl, rfl, (hF a b rfl rfl).trans hE⟩

/-- Two readings one after the other. -/
theorem seq {γ : Type} {r' s' : Except Exc β} {E' : β → β → Prop} {P' : Prop} {F : γ → γ → Prop}
    {f : α → β → γ} (h : Outcomes r s E P) (h' : Outcomes r' s' E' P')
    (hF : ∀ a b a' b', r = .ok a → s = .ok b → r' = .ok a' → s' = .ok b' → (F (f a a') (f b b') ↔ E a b ∧ E' a' b')) :
    Outcomes (r >>= fun a => r' >>= fun a' => Except.ok (f a a'))
      (s >>= fun b => s' >>= fun b' => Except.ok (f b b')) F (P ∧ P') := by
  rcases h with ⟨e, e', rfl, rfl⟩ | ⟨a, b, rfl, rfl, hE⟩
  · exact .inl ⟨e, e', rfl, rfl⟩
  · rcases h' with ⟨e, e', rfl, rfl⟩ | ⟨a', b', rfl, rfl, hE'⟩
    · exact .inl ⟨e, e', rfl, rfl⟩
    · exact .inr ⟨_, _, rfl, rfl, (hF a b a' b' rfl rfl rfl rfl).trans (and_congr hE hE')⟩

end Outcomes

/-! ## Objects that are written -/

section Render

variable {V T : Type}

/-- The fields that a function of names and attributes gives. -/
def render (f : String → Option V → Option Json) : Model V → Fields
  | [] => .nil
  | (name, value) :: rest =>
    match f name value with
    | none => render f rest
    | some v => .cons name v (render f rest)

/-- Attributes changed one by one and written. -/
theorem toDict_mapAttrs (toJson : V → Json) (g : String → Option V → Option V) (m : Model V) :
    (m.mapAttrs g).toDict toJson = render (fun name value => (g name value).map toJson) m := by
  induction m with
  | nil => rfl
  | cons a m ih =>
    obtain ⟨name, value⟩ := a
    unfold Model.mapAttrs at ih ⊢
    cases hvalue : g name value with
    | none => simp [Model.toDict, render, hvalue, ih]
    | some v => simp [Model.toDict, render, hvalue, ih]

/-- The keys that are written are names of attributes. -/
theorem get?_render_eq_none {f : String → Option V → Option Json} {name : String} {m : Model V}
    (h : name ∉ m.map Prod.fst) : (render f m).get? name = none := by
  induction m with
  | nil => rfl
  | cons a m ih =>
    obtain ⟨n, value⟩ := a
    rw [List.map_cons, List.mem_cons, not_or] at h
    rw [render]
    split
    · exact ih h.2
    · rw [Fields.get?, if_neg (Ne.symm h.1)]
      exact ih h.2

/-- What is written says every attribute. -/
theorem render_cons_inj {f : String → Option V → Option Json} {name : String} {v w : Option V}
    {m n : Model V} (hm : name ∉ m.map Prod.fst) (hn : name ∉ n.map Prod.fst) :
    render f ((name, v) :: m) = render f ((name, w) :: n) ↔ f name v = f name w ∧ render f m = render f n := by
  rcases hv : f name v with _ | j <;> rcases hw : f name w with _ | k
  · simp [render, hv, hw]
  · simp only [render, hv, hw, reduceCtorEq, false_and, iff_false]
    intro h
    have hget := congrArg (fun fields : Fields => fields.get? name) h
    simp [get?_render_eq_none hm] at hget
  · simp only [render, hv, hw, reduceCtorEq, false_and, iff_false]
    intro h
    have hget := congrArg (fun fields : Fields => fields.get? name) h
    simp [get?_render_eq_none hn] at hget
  · simp [render, hv, hw]

variable {read : T → Json → Except Exc V} {p q : Fields}

/-- An object that is read has the names of its type. -/
theorem names_of_readModel {type : List (String × T)} {m : Model V} (h : readModel read p type = .ok m) :
    m.map Prod.fst = type.map Prod.fst := by
  induction type generalizing m with
  | nil =>
    cases h
    rfl
  | cons a rest ih =>
    obtain ⟨name, t⟩ := a
    rw [readModel] at h
    cases hvalue : readOptional (read t) (p.get? name) with
    | error e =>
      rw [hvalue] at h
      cases h
    | ok value =>
      cases hrest : readModel read p rest with
      | error e =>
        rw [hvalue, hrest] at h
        cases h
      | ok values =>
        rw [hvalue, hrest] at h
        cases h
        simp [ih hrest]

variable (read) in
/-- Two objects are read together when their fields are, and what is written of them is the same exactly
if it is for every field. -/
theorem readModel_outcomes (f : String → Option V → Option Json) (C : String → Prop)
    {type : List (String × T)} (hnodup : (type.map Prod.fst).Nodup)
    (h : ∀ a ∈ type, Outcomes (readOptional (read a.2) (p.get? a.1)) (readOptional (read a.2) (q.get? a.1))
      (fun v w => f a.1 v = f a.1 w) (C a.1)) :
    Outcomes (readModel read p type) (readModel read q type) (fun m n => render f m = render f n)
      (∀ a ∈ type, C a.1) := by
  induction type with
  | nil => exact Outcomes.of_ok (by simp)
  | cons a rest ih =>
    obtain ⟨name, t⟩ := a
    rw [List.map_cons, List.nodup_cons] at hnodup
    have hrest := ih hnodup.2 fun a ha => h a (List.mem_cons_of_mem _ ha)
    have hhead := h (name, t) List.mem_cons_self
    refine (hhead.seq hrest (f := fun value values => (name, value) :: values) ?_).congr
      (List.forall_mem_cons (p := fun a : String × T => C a.1)).symm
    intro v w m n _ _ hm hn
    refine render_cons_inj ?_ ?_
    · rw [names_of_readModel hm]
      exact hnodup.1
    · rw [names_of_readModel hn]
      exact hnodup.1

end Render

/-! ## Fields of payloads -/

/-- The names of fields that are not secret and hold no object with a secret. -/
def IsPlain (name : String) : Prop :=
  name ∉ secretTexts ∧ name ∉ ["key_material", "lines", "user", "auth", "listing"]

instance (name : String) : Decidable (IsPlain name) := inferInstanceAs (Decidable (_ ∧ _))

variable {name : String} {v w : Json}

theorem FieldAlike.eq_of_isPlain (h : FieldAlike name v w) (hname : IsPlain name) : v = w := by
  simp only [IsPlain, List.mem_cons, List.not_mem_nil, or_false, not_or] at hname
  rcases h with h | (⟨hsecret, -⟩ | ⟨hkey, -⟩ | ⟨hkey, -⟩) | ⟨hkey, -⟩ | ⟨hkey, -⟩
  · exact h
  · exact absurd hsecret hname.1
  · exact absurd hkey hname.2.1
  · exact absurd hkey hname.2.2.1
  · simp only [List.mem_cons, List.not_mem_nil, or_false] at hkey
    rcases hkey with hkey | hkey
    · exact absurd hkey hname.2.2.2.1
    · exact absurd hkey hname.2.2.2.2.1
  · exact absurd hkey hname.2.2.2.2.2

theorem SecretValues.text (h : SecretValues name v w) (hkey : name ≠ "key_material") (hlines : name ≠ "lines") :
    name ∈ secretTexts ∧ ∃ s t, v = .str s ∧ w = .str t := by
  rcases h with h | ⟨h, -⟩ | ⟨h, -⟩
  · exact h
  · exact absurd h hkey
  · exact absurd h hlines

theorem not_mem_of_mem_secretTexts :
    ∀ name ∈ secretTexts, name ∉ ["key_material", "lines", "user", "auth", "listing"] := by
  decide

theorem FieldAlike.text (h : FieldAlike name v w) (hname : name ∈ secretTexts) :
    v = w ∨ ∃ s t, v = .str s ∧ w = .str t := by
  have hother := not_mem_of_mem_secretTexts name hname
  simp only [List.mem_cons, List.not_mem_nil, or_false, not_or] at hother
  rcases h with h | h | ⟨hkey, -⟩ | ⟨hkey, -⟩
  · exact .inl h
  · exact .inr (h.text hother.1 hother.2.1).2
  · simp only [List.mem_cons, List.not_mem_nil, or_false] at hkey
    rcases hkey with hkey | hkey
    · exact absurd hkey hother.2.2.1
    · exact absurd hkey hother.2.2.2.1
  · exact absurd hkey hother.2.2.2.2

/-- A user or its tokens. -/
theorem FieldAlike.record (h : FieldAlike name v w) (hname : name ∈ ["user", "auth"]) : RecordAlike v w := by
  rcases h with h | h | ⟨-, h⟩ | ⟨hkey, -⟩
  · exact .inl h
  · rcases h with ⟨hkey, -⟩ | ⟨rfl, -⟩ | ⟨rfl, -⟩
    · exact absurd (List.mem_cons_of_mem _ (List.mem_cons_of_mem _ (List.mem_append_left ["listing"] hname)))
        (not_mem_of_mem_secretTexts name hkey)
    · exact absurd hname (by decide)
    · exact absurd hname (by decide)
  · exact h
  · subst hkey
    exact absurd hname (by decide)

theorem FieldAlike.listing (h : FieldAlike "listing" v w) :
    v = w ∨ ∃ xs ys, v = .arr (.ofList xs) ∧ w = .arr (.ofList ys) ∧ xs.Forall₂ RecordAlike ys := by
  rcases h with h | h | ⟨hkey, -⟩ | ⟨-, h⟩
  · exact .inl h
  · exact absurd (h.text (by decide) (by decide)).1 (by decide)
  · exact absurd hkey (by decide)
  · exact .inr h

theorem FieldAlike.keyMaterial (h : FieldAlike "key_material" v w) : v = w ∨ ∃ s t, v = .str s ∧ w = .str t := by
  rcases h with h | (⟨hkey, -⟩ | ⟨-, s, t, hs, ht, -⟩ | ⟨hkey, -⟩) | ⟨hkey, -⟩ | ⟨hkey, -⟩
  · exact .inl h
  · exact absurd hkey (by decide)
  · exact .inr ⟨s, t, hs, ht⟩
  · exact absurd hkey (by decide)
  · exact absurd hkey (by decide)
  · exact absurd hkey (by decide)

theorem FieldAlike.lines (h : FieldAlike "lines" v w) :
    v = w ∨ ∃ xs ys : List String, v = .arr (.ofList (xs.map .str)) ∧ w = .arr (.ofList (ys.map .str)) := by
  rcases h with h | (⟨hkey, -⟩ | ⟨hkey, -⟩ | ⟨-, h⟩) | ⟨hkey, -⟩ | ⟨hkey, -⟩
  · exact .inl h
  · exact absurd hkey (by decide)
  · exact absurd hkey (by decide)
  · exact .inr h
  · exact absurd hkey (by decide)
  · exact absurd hkey (by decide)

/-! ## Objects and payloads that are read -/

/-- The value of a field of an object. -/
def fieldOf (name : String) : Json → Option Json
  | .obj fields => fields.get? name
  | _ => none

/-- The changes of two functions of attributes one after the other. -/
@[simp] theorem mapAttrs_mapAttrs {V : Type} (g h : String → Option V → Option V) (m : Model V) :
    (m.mapAttrs g).mapAttrs h = m.mapAttrs fun n value => h n (g n value) := by
  simp [Model.mapAttrs]

@[simp] theorem mapAttrs_id {V : Type} (m : Model V) : m.mapAttrs (fun _ value => value) = m := by
  simp [Model.mapAttrs]

section Reading

variable {pydantic : Pydantic}

@[simp] theorem readOptional_convert_str (s : String) :
    readOptional (pydantic.convert .str) (some (.str s)) = .ok (some (.str s)) := by
  simp [readOptional, pydantic.convert_str, Except.map]

@[simp] theorem readOptional_readPart_str (s : String) :
    readOptional (readPart pydantic (.scalar .str)) (some (.str s)) = .ok (some (.scalar (.str s))) := by
  simp [readOptional, readPart, pydantic.convert_str, Except.map]

@[simp] theorem readOptional_readPart_texts (lines : List String) :
    readOptional (readPart pydantic (.scalar .texts)) (some (.arr (.ofList (lines.map .str)))) =
      .ok (some (.scalar (.arr (.ofList (lines.map .str))))) := by
  simp [readOptional, readPart, pydantic.convert_texts, Except.map]

variable (pydantic) in
/-- Objects without nested ones, of a type whose secrets are texts: what is written of them is the same
exactly if it is for every secret. -/
theorem readRecord_outcomes (k : String → Option Json → Option Json) (D : String → Prop) {type : RecordType}
    (hnodup : (type.map Prod.fst).Nodup)
    (htext : ∀ a ∈ type, a.1 ≠ "key_material" ∧ a.1 ≠ "lines" ∧ (a.1 ∈ secretTexts → a.2 = .str))
    (hsame : ∀ a ∈ type, fieldOf a.1 v = fieldOf a.1 w → D a.1)
    (hsecret : ∀ a ∈ type, a.1 ∈ secretTexts → ∀ s t, fieldOf a.1 v = some (.str s) →
      fieldOf a.1 w = some (.str t) → (k a.1 (some (.str s)) = k a.1 (some (.str t)) ↔ D a.1)) (h : RecordAlike v w) :
    Outcomes (readRecord pydantic type v) (readRecord pydantic type w)
      (fun m n => recordJson (m.mapAttrs k) = recordJson (n.mapAttrs k)) (∀ a ∈ type, D a.1) := by
  rcases h with rfl | ⟨f, g, rfl, rfl, hfg⟩
  · exact Outcomes.same (fun a ha => hsame a ha rfl) _
  · have hread := readModel_outcomes pydantic.convert (p := f) (q := g) k D hnodup ?_
    · unfold readRecord recordJson
      simp only [toDict_mapAttrs, Option.map_id_fun, id_eq, Json.obj.injEq]
      exact hread
    · intro a ha
      obtain ⟨hkey, hlines, hstr⟩ := htext a ha
      rcases hfg.get? a.1 with ⟨hf, hg⟩ | ⟨v, w, hf, hg, rfl | hvw⟩
      · rw [hf, hg]
        exact Outcomes.same (hsame a ha (hf.trans hg.symm)) _
      · rw [hf, hg]
        exact Outcomes.same (hsame a ha (hf.trans hg.symm)) _
      · obtain ⟨hmem, s, t, rfl, rfl⟩ := hvw.text hkey hlines
        rw [hf, hg, hstr hmem, readOptional_convert_str, readOptional_convert_str]
        exact Outcomes.of_ok (hsecret a ha hmem s t hf hg)

variable {p q : Fields} {type : PayloadType}

/-- Payloads: what is written of them is the same exactly if it is for every field that differs. -/
theorem getPayloadAs_outcomes (g : String → Option Part → Option Part) (C : String → Prop)
    (hnodup : (type.map Prod.fst).Nodup) (hpq : PayloadAlike p q) (hsame : ∀ a ∈ type, p.get? a.1 = q.get? a.1 → C a.1)
    (hfield : ∀ a ∈ type, ∀ v w, p.get? a.1 = some v → q.get? a.1 = some w → FieldAlike a.1 v w → v ≠ w →
      Outcomes (readOptional (readPart pydantic a.2) (some v)) (readOptional (readPart pydantic a.2) (some w))
        (fun x y => (g a.1 x).map Part.toJson = (g a.1 y).map Part.toJson) (C a.1)) :
    Outcomes (getPayloadAs pydantic type p) (getPayloadAs pydantic type q)
      (fun m n => (m.mapAttrs g).toDict Part.toJson = (n.mapAttrs g).toDict Part.toJson) (∀ a ∈ type, C a.1) := by
  simp only [toDict_mapAttrs]
  refine readModel_outcomes (readPart pydantic) (fun name value => (g name value).map Part.toJson) C hnodup
    fun a ha => ?_
  rcases hpq.get? a.1 with ⟨hp, hq⟩ | ⟨v, w, hp, hq, hvw⟩
  · rw [hp, hq]
    exact Outcomes.same (hsame a ha (hp.trans hq.symm)) _
  · rw [hp, hq]
    by_cases heq : v = w
    · subst heq
      exact Outcomes.same (hsame a ha (hp.trans hq.symm)) _
    · exact hfield a ha v w hp hq hvw heq

/-- Payloads whose fields are plain or secret texts. -/
theorem textPayload_outcomes (g : String → Option Part → Option Part) (C : String → Prop)
    (hnodup : (type.map Prod.fst).Nodup) (hpq : PayloadAlike p q)
    (htype : ∀ a ∈ type, IsPlain a.1 ∨ a.1 ∈ secretTexts ∧ a.2 = .scalar .str)
    (hsame : ∀ a ∈ type, p.get? a.1 = q.get? a.1 → C a.1)
    (htext : ∀ a ∈ type, a.1 ∈ secretTexts → ∀ s t, p.get? a.1 = some (.str s) → q.get? a.1 = some (.str t) →
      ((g a.1 (some (.scalar (.str s)))).map Part.toJson = (g a.1 (some (.scalar (.str t)))).map Part.toJson ↔ C a.1)) :
    Outcomes (getPayloadAs pydantic type p) (getPayloadAs pydantic type q)
      (fun m n => (m.mapAttrs g).toDict Part.toJson = (n.mapAttrs g).toDict Part.toJson) (∀ a ∈ type, C a.1) := by
  refine getPayloadAs_outcomes g C hnodup hpq hsame fun a ha v w hv hw hlike hne => ?_
  rcases htype a ha with hplain | ⟨hsecret, hstr⟩
  · exact absurd (hlike.eq_of_isPlain hplain) hne
  · rcases hlike.text hsecret with heq | ⟨s, t, rfl, rfl⟩
    · exact absurd heq hne
    · rw [hstr, readOptional_readPart_str, readOptional_readPart_str]
      exact Outcomes.of_ok (htext a ha hsecret s t hv hw)

/-- Payloads with one field that is not plain. -/
theorem onePart_outcomes (name : String) (t : FieldType) (f : Option Part → Option Part) (P : Prop)
    (hnodup : (type.map Prod.fst).Nodup) (hpq : PayloadAlike p q)
    (hmem : (name, t) ∈ type) (htype : ∀ a ∈ type, IsPlain a.1 ∨ a = (name, t)) (hsame : p.get? name = q.get? name → P)
    (hpart : ∀ v w, p.get? name = some v → q.get? name = some w → FieldAlike name v w → v ≠ w →
      Outcomes (readOptional (readPart pydantic t) (some v)) (readOptional (readPart pydantic t) (some w))
        (fun x y => (f x).map Part.toJson = (f y).map Part.toJson) P) :
    Outcomes (getPayloadAs pydantic type p) (getPayloadAs pydantic type q)
      (fun m n => (m.mapAttrs fun n old => if n = name then f old else old).toDict Part.toJson =
        (n.mapAttrs fun n old => if n = name then f old else old).toDict Part.toJson) P := by
  refine (getPayloadAs_outcomes (fun n old => if n = name then f old else old) (fun n => n = name → P)
    hnodup hpq ?_ ?_).congr ⟨fun h => h _ hmem rfl, fun h _ _ _ => h⟩
  · rintro a - hget rfl
    exact hsame hget
  · intro a ha v w hv hw hlike hne
    rcases htype a ha with hplain | rfl
    · exact absurd (hlike.eq_of_isPlain hplain) hne
    · simpa using hpart v w hv hw hlike hne

/-- A nested object. -/
theorem readPart_record_outcomes {type : RecordType} {k : Model Json → Model Json} {P : Prop}
    (hne : v ≠ w) (hvw : RecordAlike v w) (h : Outcomes (readRecord pydantic type v) (readRecord pydantic type w)
      (fun m n => recordJson (k m) = recordJson (k n)) P) :
    Outcomes (readOptional (readPart pydantic (.record type)) (some v))
      (readOptional (readPart pydantic (.record type)) (some w))
      (fun x y => (x.map (Part.onRecord k)).map Part.toJson = (y.map (Part.onRecord k)).map Part.toJson) P := by
  rcases hvw with heq | ⟨f, g, rfl, rfl, -⟩
  · exact absurd heq hne
  · have hpart : Outcomes (readPart pydantic (.record type) (.obj f)) (readPart pydantic (.record type) (.obj g))
        (fun x y => (Part.onRecord k x).toJson = (Part.onRecord k y).toJson) P :=
      h.map fun _ _ _ _ => Iff.rfl
    exact hpart.map fun x y _ _ => by simp

/-- The entries of two listings. -/
theorem mapM_outcomes {α : Type} {read : Json → Except Exc α} {f : α → Json} {D : Json → Json → Prop}
    {xs ys : List Json} (hxy : xs.Forall₂ RecordAlike ys)
    (h : ∀ v w, RecordAlike v w → Outcomes (read v) (read w) (fun a b => f a = f b) (D v w)) (n : Nat) :
    Outcomes (xs.mapM read) (ys.mapM read) (fun as bs => (as.take n).map f = (bs.take n).map f)
      ((xs.take n).Forall₂ D (ys.take n)) := by
  induction hxy generalizing n with
  | nil => exact Outcomes.of_ok (by simp)
  | @cons v w xs ys hvw hrest ih =>
    rw [List.mapM_cons, List.mapM_cons]
    cases n with
    | zero =>
      refine ((h v w hvw).ignore.seq (ih 0) (f := List.cons) fun a b as bs _ _ _ _ => ?_).congr ?_
      · simp
      · simp
    | succ n =>
      refine ((h v w hvw).seq (ih n) (f := List.cons) fun a b as bs _ _ _ _ => ?_).congr ?_
      · simp
      · simp

/-- A listing, of which the first entries are written. -/
theorem readPart_records_outcomes {type : RecordType} {D : Json → Json → Prop} {xs ys : List Json}
    (hxy : xs.Forall₂ RecordAlike ys)
    (h : ∀ v w, RecordAlike v w → Outcomes (readRecord pydantic type v) (readRecord pydantic type w)
      (fun m n => recordJson m = recordJson n) (D v w)) :
    Outcomes (readOptional (readPart pydantic (.records type)) (some (.arr (.ofList xs))))
      (readOptional (readPart pydantic (.records type)) (some (.arr (.ofList ys))))
      (fun x y => (x.map (Part.onRecords truncate)).map Part.toJson = (y.map (Part.onRecords truncate)).map Part.toJson)
      ((xs.take maxListingsForLogging).Forall₂ D (ys.take maxListingsForLogging)) := by
  have htake : ∀ ms : List (Model Json), truncate ms = ms.take maxListingsForLogging := by
    intro ms
    unfold truncate
    split
    · rfl
    · rw [List.take_of_length_le (by omega)]
  have hread := mapM_outcomes hxy h maxListingsForLogging
  have hpart : Outcomes (readPart pydantic (.records type) (.arr (.ofList xs)))
      (readPart pydantic (.records type) (.arr (.ofList ys)))
      (fun x y => (Part.onRecords truncate x).toJson = (Part.onRecords truncate y).toJson)
      ((xs.take maxListingsForLogging).Forall₂ D (ys.take maxListingsForLogging)) := by
    simp only [readPart, readRecords, Items.toList_ofList]
    refine hread.map fun as bs _ _ => ?_
    simp only [Part.onRecords, Part.toJson, htake, Json.arr.injEq, Items.ofList_injective.eq_iff]
  exact hpart.map fun x y _ _ => by simp

end Reading

end ContainRes.Api.Payloads
