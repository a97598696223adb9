import CheetahDex.Lib.HashMap

/-!
# States seen through keys

A program state often matters only through what it holds under each key of some kind. A `view` is
that reading. An operation `ActsAt` a key when it changes what is seen there by a known function and
nothing that is seen elsewhere.

The second part is about writes that do not look at what they replace. They can be replayed in
another order as long as a write does not overtake one that says something else about a key of its
own.
-/

namespace CheetahDex.Lib

open List

variable {σ κ α β : Type*} [DecidableEq κ]

/-! ## Operations on one key -/

/-- `f` keeps the invariant, changes what is seen under `k` by `g`, and nothing else. -/
def ActsAt (inv : σ → Prop) (view : σ → κ → α) (k : κ) (f : σ → σ) (g : α → α) : Prop :=
  ∀ s, inv s → inv (f s) ∧ ∀ k', view (f s) k' = if k' = k then g (view s k) else view s k'

variable {inv : σ → Prop} {view : σ → κ → α} {k : κ}

theorem actsAt_id : ActsAt inv view k (fun s => s) (fun x => x) := by
  refine fun s hs => ⟨hs, fun k' => ?_⟩
  split
  · rename_i hk
    rw [hk]
  · rfl

theorem ActsAt.comp {f f' : σ → σ} {g g' : α → α} (h : ActsAt inv view k f g)
    (h' : ActsAt inv view k f' g') :
    ActsAt inv view k (fun s => f' (f s)) (fun x => g' (g x)) := by
  intro s hs
  obtain ⟨hinv, hvw⟩ := h s hs
  obtain ⟨hinv', hvw'⟩ := h' (f s) hinv
  refine ⟨hinv', fun k' => ?_⟩
  rw [hvw', hvw, hvw, if_pos rfl]
  split
  · rfl
  · rfl

theorem ActsAt.ite {f : σ → σ} {g : α → α} (h : ActsAt inv view k f g) (c : Bool) :
    ActsAt inv view k (fun s => if c then f s else s) (fun x => if c then g x else x) := by
  cases c with
  | true => exact h
  | false => exact actsAt_id

/-- A loop of operations on one key. -/
theorem ActsAt.foldl {f : σ → β → σ} {g : α → β → α} (bs : List β)
    (h : ∀ b ∈ bs, ActsAt inv view k (fun s => f s b) (fun x => g x b)) :
    ActsAt inv view k (fun s => bs.foldl f s) (fun x => bs.foldl g x) := by
  induction bs with
  | nil => exact actsAt_id
  | cons b bs ih => exact (h b mem_cons_self).comp (ih fun b' hb' => h b' (mem_cons_of_mem b hb'))

/-- A loop over different keys, each turn acting at its own: every key sees its own turn. -/
theorem foldl_actsAt [BEq κ] [LawfulBEq κ] {f : σ → κ × β → σ} {g : α → β → α}
    {entries : List (κ × β)}
    (hnd : (entries.map Prod.fst).Nodup)
    (h : ∀ e ∈ entries, ActsAt inv view e.1 (fun s => f s e) (fun x => g x e.2)) {s : σ}
    (hs : inv s) :
    inv (entries.foldl f s) ∧ ∀ k, view (entries.foldl f s) k =
      ((entries.lookup k).map (g (view s k))).getD (view s k) := by
  induction entries generalizing s with
  | nil => exact ⟨hs, fun k => rfl⟩
  | cons e entries ih =>
    obtain ⟨ke, b⟩ := e
    rw [map_cons, nodup_cons] at hnd
    obtain ⟨hinv, hvw⟩ := h (ke, b) mem_cons_self s hs
    obtain ⟨hinv', hvw'⟩ := ih hnd.2 (fun e he => h e (mem_cons_of_mem _ he)) hinv
    refine ⟨hinv', fun k => ?_⟩
    rw [foldl_cons, hvw', hvw, lookup_cons]
    by_cases hk : k = ke
    · have hab : entries.lookup k = none := by
        rw [lookup_eq_none_iff]
        intro e he
        exact bne_iff_ne.2 fun heq => hnd.1 (List.mem_map.2 ⟨e, he, heq.symm.trans hk⟩)
      rw [if_pos hk, hab, beq_iff_eq.2 hk, hk]
      rfl
    · rw [if_neg hk, beq_eq_false_iff_ne.2 hk]

/-- Entries that are inserted one by one, each key once. -/
theorem HashMap.lookup_foldl_insert [BEq κ] [LawfulBEq κ] (es : List (κ × β)) (m : HashMap κ β)
    (k : κ) (hnd : (es.map Prod.fst).Nodup) :
    (es.foldl (fun m e => m.insert e.1 e.2) m).lookup k = (es.lookup k).or (m.lookup k) := by
  have hac : ∀ e ∈ es, ActsAt (fun _ => True) (fun (m : HashMap κ β) k => m.lookup k) e.1
      (fun m => m.insert e.1 e.2) (fun _ => some e.2) :=
    fun e _ m _ => ⟨trivial, fun k => HashMap.lookup_insert_ite m e.1 k e.2⟩
  rw [(foldl_actsAt hnd hac trivial).2 k]
  cases es.lookup k <;> rfl

/-! ## Writes -/

variable (s : κ → α)

/-- The state after a write. -/
def overwrite (w : κ → Option α) : κ → α := fun k => (w k).getD (s k)

/-- The state after some writes, one after the other. -/
def replay (ws : List (κ → Option α)) : κ → α := ws.foldl overwrite s

/-- Where both writes say something, they say the same. -/
def Compatible (w w' : κ → Option α) : Prop := ∀ k a b, w k = some a → w' k = some b → a = b

omit [DecidableEq κ] in
theorem overwrite_comm {w w' : κ → Option α} (h : Compatible w w') (s : κ → α) :
    overwrite (overwrite s w) w' = overwrite (overwrite s w') w := by
  funext k
  unfold overwrite
  cases hw : w k with
  | none => rfl
  | some a =>
    cases hw' : w' k with
    | none => rfl
    | some b => exact (h k a b hw hw').symm

omit [DecidableEq κ] in
theorem replay_append (ws ws' : List (κ → Option α)) :
    replay s (ws ++ ws') = replay (replay s ws) ws' := foldl_append

omit [DecidableEq κ] in
/-- A write may overtake writes it is compatible with. -/
theorem replay_overtake {ws : List (κ → Option α)} {w : κ → Option α}
    (h : ∀ w' ∈ ws, Compatible w' w) : replay (overwrite s w) ws = overwrite (replay s ws) w := by
  induction ws generalizing s with
  | nil => rfl
  | cons w' ws ih =>
    have hcm := overwrite_comm (h w' mem_cons_self) s
    have htl := ih (overwrite s w') fun w'' hw'' => h w'' (mem_cons_of_mem _ hw'')
    rw [replay, foldl_cons, ← hcm]
    exact htl

end CheetahDex.Lib
