import ContainRes.Effects.Proc
import Mathlib.Data.List.Induction

/-! # Merging a list of records

Records are merged into a state one after the other. A record may be **skipped**, may be **merged**, which
leaves a delta, or may **fail**, which ends the merge with the deltas so far; an exception ends it without.

* **`mergeAll`** — the merge, with the deltas and whether every record went well.
* **`Completes`** — the merge goes well; `completes_cons` and `completes_append` take its run apart.
* **`Reaches`** — a record is reached in a state; `Completes.exists_reaches` and
  `Completes.exists_of_mem` go from records and from deltas to the step that dealt with them.
* **`Completes.accumulate`** — what each step does to the state, for the whole run.
* **`exists_completes_of_mergeAll`** — where a merge that returns has stopped. -/

namespace ContainRes.Effects

universe u v

variable {σ ε δ : Type u} {ρ : Type v}

/-- What the merge of a record comes to. -/
inductive Merged (δ : Type u) : Type u
  | skipped
  | merged (delta : δ)
  | failed

open Proc

/-- Merge the records in order. -/
def mergeAll (step : ρ → Proc σ ε (Merged δ)) : List ρ → Proc σ ε (List δ × Bool)
  | [] => pure ([], true)
  | record :: records => step record >>= fun
      | .skipped => mergeAll step records
      | .failed => pure ([], false)
      | .merged delta => mergeAll step records >>= fun rest => pure (delta :: rest.1, rest.2)

/-- The merge of the records from `s` goes well: it returns the deltas and leaves `t`. -/
def Completes (step : ρ → Proc σ ε (Merged δ)) (records : List ρ) (s : σ) (deltas : List δ) (t : σ) : Prop :=
  (mergeAll step records).run s = (.ok (deltas, true), t)

variable {step : ρ → Proc σ ε (Merged δ)} {record : ρ} {records before after : List ρ} {s t u : σ}
  {deltas : List δ} {delta : δ}

@[simp] theorem completes_nil : Completes step [] s deltas t ↔ deltas = [] ∧ t = s := by
  constructor
  · intro h
    cases h
    exact ⟨rfl, rfl⟩
  · rintro ⟨rfl, rfl⟩
    rfl

/-- A merge goes well when its first record does and the others do from there. -/
theorem completes_cons : Completes step (record :: records) s deltas t ↔
    (∃ u, (step record).run s = (.ok .skipped, u) ∧ Completes step records u deltas t) ∨
      ∃ delta rest u, deltas = delta :: rest ∧ (step record).run s = (.ok (.merged delta), u) ∧
        Completes step records u rest t := by
  unfold Completes
  rw [mergeAll, run_bind]
  rcases hstep : (step record).run s with ⟨e | result, u⟩
  · simp
  · cases result with
    | skipped => simp
    | failed =>
      show (pure ([], false) : Proc σ ε (List δ × Bool)).run u = _ ↔ _
      simp
    | merged delta =>
      show (mergeAll step records >>= fun rest => pure (delta :: rest.1, rest.2)).run u = _ ↔ _
      rw [run_bind]
      rcases hrest : (mergeAll step records).run u with ⟨e | ⟨rest, success⟩, t'⟩
      · simp [hrest]
      · -- the deltas of the rest follow the one of the first record
        constructor
        · intro h
          cases h
          exact .inr ⟨delta, rest, u, rfl, rfl, hrest⟩
        · rintro (⟨u', hskip, -⟩ | ⟨delta', rest', u', rfl, hmerged, hrest'⟩)
          · cases hskip
          · cases hmerged
            rw [hrest] at hrest'
            cases hrest'
            rfl

/-- A merge goes well when a first part of the records does and the rest does from there. -/
theorem completes_append : Completes step (before ++ after) s deltas t ↔
    ∃ first rest u, deltas = first ++ rest ∧ Completes step before s first u ∧ Completes step after u rest t := by
  induction before generalizing s deltas with
  | nil => simp
  | cons record before ih =>
    rw [List.cons_append, completes_cons]
    constructor
    · rintro (⟨u, hskip, h⟩ | ⟨delta, rest, u, rfl, hmerged, h⟩)
      · obtain ⟨first, rest, v, rfl, hfirst, hrest⟩ := ih.mp h
        exact ⟨first, rest, v, rfl, (completes_cons).mpr (.inl ⟨u, hskip, hfirst⟩), hrest⟩
      · obtain ⟨first, rest, v, rfl, hfirst, hrest⟩ := ih.mp h
        exact ⟨delta :: first, rest, v, rfl, (completes_cons).mpr (.inr ⟨delta, first, u, rfl, hmerged, hfirst⟩), hrest⟩
    · rintro ⟨first, rest, v, rfl, hfirst, hrest⟩
      rcases (completes_cons).mp hfirst with ⟨u, hskip, h⟩ | ⟨delta, first', u, rfl, hmerged, h⟩
      · exact .inl ⟨u, hskip, ih.mpr ⟨first, rest, v, rfl, h, hrest⟩⟩
      · exact .inr ⟨delta, first' ++ rest, u, rfl, hmerged, ih.mpr ⟨first', rest, v, rfl, h, hrest⟩⟩

/-! ## The step of a record -/

/-- The merge of the records from `s` comes to `record` in the state `u`. -/
def Reaches (step : ρ → Proc σ ε (Merged δ)) (records : List ρ) (s : σ) (record : ρ) (u : σ) : Prop :=
  ∃ before after deltas, records = before ++ record :: after ∧ Completes step before s deltas u

theorem Reaches.mem (h : Reaches step records s record u) : record ∈ records := by
  obtain ⟨before, after, deltas, rfl, -⟩ := h
  simp

theorem Completes.eq_of_eq {deltas' : List δ} (h : Completes step records s deltas t)
    (h' : Completes step records s deltas' u) : deltas = deltas' ∧ t = u := by
  unfold Completes at h h'
  rw [h] at h'
  cases h'
  exact ⟨rfl, rfl⟩

/-- A merge comes to a record once, where no record is there twice. -/
theorem Reaches.unique {u' : σ} (hnodup : records.Nodup) (h : Reaches step records s record u)
    (h' : Reaches step records s record u') : u = u' := by
  obtain ⟨before, after, first, hrecords, hbefore⟩ := h
  obtain ⟨before', after', first', hrecords', hbefore'⟩ := h'
  subst hrecords
  obtain ⟨-, hcons, hdisjoint⟩ := List.nodup_append.mp hnodup
  have hbefore_notMem : record ∉ before := fun hmem => hdisjoint record hmem record List.mem_cons_self rfl
  obtain ⟨rfl, -, -⟩ := (List.append_cons_inj_of_notMem hbefore_notMem (List.nodup_cons.mp hcons).1).mp hrecords'
  exact (hbefore.eq_of_eq hbefore').2

/-- The step of a record that a merge which goes well comes to, and what follows it. -/
theorem Completes.of_reaches (hrun : Completes step records s deltas t) (h : Reaches step records s record u) :
    ∃ w later rest, Completes step later w rest t ∧ ((step record).run u = (.ok .skipped, w) ∨
        ∃ delta ∈ deltas, (step record).run u = (.ok (.merged delta), w)) := by
  obtain ⟨before, after, first, rfl, hbefore⟩ := h
  obtain ⟨first', rest, u', rfl, hbefore', hafter⟩ := (completes_append).mp hrun
  -- the state after the records before is the one that the run passes
  unfold Completes at hbefore hbefore'
  rw [hbefore] at hbefore'
  cases hbefore'
  rcases (completes_cons).mp hafter with ⟨w, hskip, h⟩ | ⟨delta, rest', w, rfl, hmerged, h⟩
  · exact ⟨w, after, rest, h, .inl hskip⟩
  · exact ⟨w, after, rest', h, .inr ⟨delta, by simp, hmerged⟩⟩

theorem Completes.exists_reaches (hrun : Completes step records s deltas t) (h : record ∈ records) :
    ∃ u, Reaches step records s record u := by
  obtain ⟨before, after, rfl⟩ := List.append_of_mem h
  obtain ⟨first, rest, u, -, hbefore, -⟩ := (completes_append).mp hrun
  exact ⟨u, before, after, first, rfl, hbefore⟩

/-- The merge of the records from `s` deals with `record` from `u` to `w`. -/
def Deals (step : ρ → Proc σ ε (Merged δ)) (records : List ρ) (s : σ) (record : ρ) (u w : σ) : Prop :=
  Reaches step records s record u ∧ ((step record).run u).2 = w

/-- A merge that goes well deals with each of its records, and skips it or merges it. -/
theorem Completes.exists_deals (hrun : Completes step records s deltas t) (h : record ∈ records) :
    ∃ u w, Deals step records s record u w ∧ ((step record).run u = (.ok .skipped, w) ∨
      ∃ delta, (step record).run u = (.ok (.merged delta), w)) := by
  obtain ⟨u, hreaches⟩ := hrun.exists_reaches h
  obtain ⟨w, later, rest, -, hskip | ⟨delta, -, hmerged⟩⟩ := hrun.of_reaches hreaches
  · exact ⟨u, w, ⟨hreaches, by rw [hskip]⟩, .inl hskip⟩
  · exact ⟨u, w, ⟨hreaches, by rw [hmerged]⟩, .inr ⟨delta, hmerged⟩⟩

/-- Each delta is left by the step of a record. -/
theorem Completes.exists_of_mem (hrun : Completes step records s deltas t) (h : delta ∈ deltas) :
    ∃ record u w later rest, Reaches step records s record u ∧
      (step record).run u = (.ok (.merged delta), w) ∧ Completes step later w rest t := by
  -- the induction is on the records; `before` are those already dealt with
  suffices key : ∀ (before after : List ρ) first rest u, records = before ++ after →
      Completes step before s first u → Completes step after u rest t → delta ∈ rest →
      ∃ record u w later rest, Reaches step records s record u ∧
        (step record).run u = (.ok (.merged delta), w) ∧ Completes step later w rest t from
    key [] records [] deltas s rfl (completes_nil.mpr ⟨rfl, rfl⟩) hrun h
  intro before after
  induction after generalizing before with
  | nil =>
    intro first rest u _ _ hafter hmem
    rw [(completes_nil.mp hafter).1] at hmem
    exact absurd hmem List.not_mem_nil
  | cons record after ih =>
    intro first rest u hrecords hbefore hafter hmem
    have hnext : records = (before ++ [record]) ++ after := by simp [hrecords]
    have hreach : Reaches step records s record u := ⟨before, after, first, hrecords, hbefore⟩
    rcases (completes_cons).mp hafter with ⟨w, hskip, hlater⟩ | ⟨delta', rest', w, rfl, hmerged, hlater⟩
    · refine ih (before ++ [record]) first rest w hnext ?_ hlater hmem
      exact (completes_append).mpr ⟨first, [], u, by simp, hbefore,
        (completes_cons).mpr (.inl ⟨w, hskip, completes_nil.mpr ⟨rfl, rfl⟩⟩)⟩
    · rcases List.mem_cons.mp hmem with rfl | hmem
      · exact ⟨record, u, w, after, rest', hreach, hmerged, hlater⟩
      · refine ih (before ++ [record]) (first ++ [delta']) rest' w hnext ?_ hlater hmem
        exact (completes_append).mpr ⟨first, [delta'], u, rfl, hbefore,
          (completes_cons).mpr (.inr ⟨delta', [], w, rfl, hmerged, completes_nil.mpr ⟨rfl, rfl⟩⟩)⟩

/-- What a merge that goes well comes to, one of more records comes to as well. -/
theorem Reaches.append (h : Reaches step records s record u) (more : List ρ) :
    Reaches step (records ++ more) s record u := by
  obtain ⟨before, after, first, rfl, hbefore⟩ := h
  exact ⟨before, after ++ more, first, by simp, hbefore⟩

/-- What holds before a merge that goes well and not after it ends with one of its steps. -/
theorem Completes.exists_step {I : σ → Prop} (hrun : Completes step records s deltas t) (hs : I s)
    (ht : ¬ I t) : ∃ record u w, Reaches step records s record u ∧ I u ∧ ¬ I w ∧
      ((step record).run u = (.ok .skipped, w) ∨ ∃ delta, (step record).run u = (.ok (.merged delta), w)) := by
  -- the induction takes the last record away
  induction records using List.reverseRecOn generalizing deltas t with
  | nil =>
    obtain ⟨-, rfl⟩ := completes_nil.mp hrun
    exact absurd hs ht
  | append_singleton records last ih =>
    obtain ⟨first, rest, v, rfl, hfirst, hlast⟩ := (completes_append).mp hrun
    by_cases hv : I v
    · have hreaches : Reaches step (records ++ [last]) s last v := ⟨records, [], first, rfl, hfirst⟩
      rcases (completes_cons).mp hlast with ⟨w, hskip, hnil⟩ | ⟨delta, rest', w, rfl, hmerged, hnil⟩
      · obtain ⟨-, rfl⟩ := completes_nil.mp hnil
        exact ⟨last, v, t, hreaches, hv, ht, .inl hskip⟩
      · obtain ⟨-, rfl⟩ := completes_nil.mp hnil
        exact ⟨last, v, t, hreaches, hv, ht, .inr ⟨delta, hmerged⟩⟩
    · obtain ⟨record, u, w, hreaches, hu, hw, hstep⟩ := ih hfirst hv
      exact ⟨record, u, w, hreaches.append [last], hu, hw, hstep⟩

/-! ## The whole run -/

/-- **Accumulation.** `R s deltas t` composes, and each step is in `R` with what it merged: so is the
run. -/
theorem Completes.accumulate {R : σ → List δ → σ → Prop} (hrun : Completes step records s deltas t)
    (hnil : ∀ s, R s [] s) (happend : ∀ s u t first rest, R s first u → R u rest t → R s (first ++ rest) t)
    (hskip : ∀ record ∈ records, ∀ s t, (step record).run s = (.ok .skipped, t) → R s [] t)
    (hmerged : ∀ record ∈ records, ∀ s t delta, (step record).run s = (.ok (.merged delta), t) →
      R s [delta] t) : R s deltas t := by
  induction records generalizing s deltas with
  | nil =>
    obtain ⟨rfl, rfl⟩ := completes_nil.mp hrun
    exact hnil t
  | cons record records ih =>
    have ih' := fun {s deltas} (h : Completes step records s deltas t) =>
      ih h (fun r hr => hskip r (List.mem_cons_of_mem record hr))
        fun r hr => hmerged r (List.mem_cons_of_mem record hr)
    rcases (completes_cons).mp hrun with ⟨u, h, hrest⟩ | ⟨delta, rest, u, rfl, h, hrest⟩
    · exact happend s u t [] deltas (hskip record List.mem_cons_self s u h) (ih' hrest)
    · exact happend s u t [delta] rest (hmerged record List.mem_cons_self s u delta h) (ih' hrest)

/-- Each record leaves at most one delta, and the deltas are in the order of their records. -/
theorem Completes.sublist {f : δ → ρ} (hrun : Completes step records s deltas t)
    (hmerged : ∀ record ∈ records, ∀ s t delta, (step record).run s = (.ok (.merged delta), t) →
      f delta = record) : (deltas.map f).Sublist records := by
  induction records generalizing s deltas with
  | nil =>
    obtain ⟨rfl, -⟩ := completes_nil.mp hrun
    exact List.Sublist.refl []
  | cons record records ih =>
    have ih' := fun {s deltas} (h : Completes step records s deltas t) =>
      ih h fun r hr => hmerged r (List.mem_cons_of_mem record hr)
    rcases (completes_cons).mp hrun with ⟨u, h, hrest⟩ | ⟨delta, rest, u, rfl, h, hrest⟩
    · exact (ih' hrest).cons record
    · rw [List.map_cons, hmerged record List.mem_cons_self s u delta h]
      exact (ih' hrest).cons_cons record

/-- A merge that goes well keeps what its steps keep. -/
theorem Completes.keeps {I : σ → Prop} (hrun : Completes step records s deltas t) (hs : I s)
    (hstep : ∀ record ∈ records, Keeps I (step record)) : I t := by
  refine hrun.accumulate (R := fun s _ t => I s → I t) (fun _ h => h) (fun _ _ _ _ _ h h' hI => h' (h hI))
    ?_ ?_ hs
  · intro record hmem s t h hI
    exact (hstep record hmem).of_ok hI h
  · intro record hmem s t delta h hI
    exact (hstep record hmem).of_ok hI h

/-- So does any other merge. -/
theorem keeps_mergeAll {I : σ → Prop} (hstep : ∀ record, Keeps I (step record)) : Keeps I (mergeAll step records) := by
  induction records with
  | nil => exact Keeps.pure _
  | cons record records ih =>
    refine Keeps.bind (hstep record) fun result => ?_
    cases result with
    | skipped => exact ih
    | failed => exact Keeps.pure _
    | merged delta => exact Keeps.bind ih fun _ => Keeps.pure _

/-- A merge that returns has gone well for a first part of the records, and the record after it failed unless
it succeeded. -/
theorem exists_completes_of_mergeAll {success : Bool} (h : (mergeAll step records).run s = (.ok (deltas, success), t)) :
    ∃ done rest u, records = done ++ rest ∧ Completes step done s deltas u ∧
      (success = true ∧ rest = [] ∧ u = t ∨ success = false ∧ ∃ record later, rest = record :: later ∧
        (step record).run u = (.ok .failed, t)) := by
  induction records generalizing s deltas with
  | nil =>
    cases h
    exact ⟨[], [], t, rfl, completes_nil.mpr ⟨rfl, rfl⟩, .inl ⟨rfl, rfl, rfl⟩⟩
  | cons record records ih =>
    rw [mergeAll] at h
    obtain ⟨result, u, hstep, hrest⟩ := returns_bind.mp h
    cases result with
    | skipped =>
      obtain ⟨done, rest, v, rfl, hdone, hend⟩ := ih hrest
      exact ⟨record :: done, rest, v, rfl, (completes_cons).mpr (.inl ⟨u, hstep, hdone⟩), hend⟩
    | failed =>
      cases hrest
      exact ⟨[], record :: records, s, rfl, completes_nil.mpr ⟨rfl, rfl⟩, .inr ⟨rfl, record, records, rfl, hstep⟩⟩
    | merged delta =>
      obtain ⟨later, w, hlater, hlast⟩ := returns_bind.mp hrest
      cases hlast
      obtain ⟨done, rest, v, rfl, hdone, hend⟩ := ih hlater
      exact ⟨record :: done, rest, v, rfl, (completes_cons).mpr (.inr ⟨delta, later.1, u, rfl, hstep, hdone⟩), hend⟩

end ContainRes.Effects
