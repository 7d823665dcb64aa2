import ChatRouter.Proofs.SortedMap
import ChatRouter.Store.Call

set_option autoImplicit false

namespace ChatRouter

namespace Edit

variable {α β γ : Type}

theorem run_check_bind_ok {x : Except DataError α} {f : α → Edit β} {s t : Store} {b : β} :
    (check x >>= f).run s = (.ok b, t) ↔ ∃ a, x = .ok a ∧ (f a).run s = (.ok b, t) := by
  cases x with
  | ok a => simp [run_bind]
  | error e => simp [run_bind]

theorem run_ask_bind_ok {g : Store → Except DataError α} {f : α → Edit β} {s t : Store}
    {b : β} : (ask g >>= f).run s = (.ok b, t) ↔ ∃ a, g s = .ok a ∧ (f a).run s = (.ok b, t) :=
  run_check_bind_ok (x := g s)

theorem run_check_bind_error {x : Except DataError α} {f : α → Edit β} {s : Store} {e : DataError} :
    ((check x >>= f).run s).1 = .error e ↔ x = .error e ∨ ∃ a, x = .ok a ∧ ((f a).run s).1 = .error e := by
  cases x with
  | ok a => simp [run_bind]
  | error e => simp [run_bind]

theorem run_ask_bind_error {g : Store → Except DataError α} {f : α → Edit β} {s : Store}
    {e : DataError} : ((ask g >>= f).run s).1 = .error e ↔
      g s = .error e ∨ ∃ a, g s = .ok a ∧ ((f a).run s).1 = .error e :=
  run_check_bind_error (x := g s)

@[simp] theorem run_check_unit_bind_ok {x : Except DataError Unit} {f : Unit → Edit β} {s t : Store}
    {b : β} : (check x >>= f).run s = (.ok b, t) ↔ x = .ok () ∧ (f ()).run s = (.ok b, t) :=
  run_check_bind_ok.trans ⟨fun ⟨_, h⟩ => h, fun h => ⟨(), h⟩⟩

@[simp] theorem run_ask_unit_bind_ok {g : Store → Except DataError Unit} {f : Unit → Edit β}
    {s t : Store} {b : β} :
    (ask g >>= f).run s = (.ok b, t) ↔ g s = .ok () ∧ (f ()).run s = (.ok b, t) :=
  run_check_unit_bind_ok (x := g s)

@[simp] theorem run_change_bind (g : Store → Store) (f : Unit → Edit β) (s : Store) :
    (change g >>= f).run s = (f ()).run (g s) := rfl

/-- `f` of the store is the same afterwards. -/
def Keeps (f : Store → γ) (e : Edit α) : Prop := ∀ s, f (e.run s).2 = f s

/-- When it fails, the store is as it was. -/
def Undone (e : Edit α) : Prop := ∀ s x, (e.run s).1 = .error x → (e.run s).2 = s

variable {f : Store → γ}

theorem keeps_ask (g : Store → Except DataError α) : Keeps f (ask g) := fun _ => rfl

theorem keeps_check (x : Except DataError α) : Keeps f (check x) := fun _ => rfl

theorem keeps_pure (a : α) : Keeps f (pure a : Edit α) := fun _ => rfl

theorem keeps_change {g : Store → Store} (h : ∀ s, f (g s) = f s) : Keeps f (change g) := h

theorem Keeps.bind {e : Edit α} {g : α → Edit β} (he : Keeps f e) (hg : ∀ a, Keeps f (g a)) :
    Keeps f (e >>= g) := by
  intro s
  rw [run_bind]
  split
  · rename_i a t h
    rw [hg a t]
    simpa only [h] using he s
  · rename_i x t h
    simpa only [h] using he s

theorem undone_ask (g : Store → Except DataError α) : Undone (ask g) := fun _ _ _ => rfl

theorem undone_change (g : Store → Store) : Undone (change g) := fun _ _ h => by cases h

theorem undone_change_change (g h : Store → Store) : Undone (do change g; change h) :=
  undone_change (h ∘ g)

theorem Undone.ask_bind {g : Store → Except DataError α} {h : α → Edit β} (hh : ∀ a, Undone (h a)) :
    Undone (ask g >>= h) := by
  intro s x hx
  rw [run_bind] at hx ⊢
  cases hg : g s with
  | ok a =>
    simp only [run_ask, hg] at hx ⊢
    exact hh a s x hx
  | error e => simp only [run_ask, hg]

theorem Undone.check_bind {y : Except DataError α} {h : α → Edit β} (hh : ∀ a, Undone (h a)) :
    Undone (check y >>= h) := Undone.ask_bind (g := fun _ => y) hh

end Edit

inductive Part where
  | bundles
  | directory
  | ledger
  | layered
deriving DecidableEq

/-- `f` of a store does not depend on that part of it. -/
def Part.IgnoredBy {γ : Type} (f : Store → γ) : Part → Prop
  | bundles => ∀ s m, f { s with bundles := m } = f s
  | directory => ∀ s us gs rs, f { s with users := us, groups := gs, roles := rs } = f s
  | ledger => ∀ s rs n, f { s with requests := rs, lastRequest := n } = f s
  | layered => ∀ s m, f { s with layered := m } = f s

def Call.part? : Call → Option Part
  | bundleCreate _ | bundleDelete _ _ | bundleEnable _ _ | bundleDisable _ _ => some .bundles
  | userCreate _ | userUpdate _ | userDelete _ | groupCreate _ | groupDelete _ | groupUserAdd _ _
  | groupUserDelete _ _ | groupRoleAdd _ _ | groupRoleDelete _ _ | roleCreate _ | roleDelete _
  | rolePermissionAdd _ _ _ | rolePermissionDelete _ _ _ => some .directory
  | requestBegin _ | requestClose _ _ _ => some .ledger
  | configCreate _ | configDelete _ _ _ _ => some .layered
  | _ => none

namespace Store

open Edit

variable {γ : Type} {f : Store → γ}

theorem keeps_of_bundles (h : Part.bundles.IgnoredBy f) {c : Call} (hc : c.part? = some .bundles) :
    Keeps f (editFor c) := by
  have shelf : ∀ s n g, f (s.changeShelf n g) = f s := fun s _ _ => h s _
  cases c with
  | bundleCreate b =>
    refine (keeps_check _).bind fun v => (keeps_ask _).bind fun i => ?_
    refine (keeps_change fun s => h s _).bind fun _ => (keeps_ask _).bind fun _ => ?_
    refine (keeps_change fun s => shelf s _ _).bind fun _ => ?_
    cases b.enabled
    · exact keeps_pure ()
    · exact keeps_change fun s => shelf s _ _
  | bundleDelete n v =>
    refine (keeps_ask _).bind fun v => (keeps_change fun s => shelf s _ _).bind fun _ => ?_
    refine keeps_change fun s => ?_
    split
    · exact h s _
    · rfl
  | bundleEnable n v => exact (keeps_ask _).bind fun v => keeps_change fun s => shelf s _ _
  | bundleDisable n v => exact (keeps_ask _).bind fun v => keeps_change fun s => shelf s _ _
  | _ => cases hc

theorem keeps_of_directory (h : Part.directory.IgnoredBy f) {c : Call}
    (hc : c.part? = some .directory) : Keeps f (editFor c) := by
  have users : ∀ s us, f { s with users := us } = f s := fun s us => h s us s.groups s.roles
  have groups : ∀ s gs, f { s with groups := gs } = f s := fun s gs => h s s.users gs s.roles
  have roles : ∀ s rs, f { s with roles := rs } = f s := fun s rs => h s s.users s.groups rs
  cases c with
  | userCreate u =>
    refine (keeps_check _).bind fun _ => (keeps_ask _).bind fun _ => (keeps_ask _).bind fun _ => ?_
    exact keeps_change fun s => users s _
  | userUpdate u =>
    refine (keeps_ask _).bind fun _ => (keeps_ask _).bind fun _ => keeps_change fun s => ?_
    split
    · exact users s _
    · rfl
  | userDelete n =>
    refine (keeps_check _).bind fun _ => (keeps_ask _).bind fun _ => ?_
    exact (keeps_change fun s => users s _).bind fun _ => keeps_change fun s => groups s _
  | groupCreate n =>
    refine (keeps_check _).bind fun _ => (keeps_ask _).bind fun _ => ?_
    exact keeps_change fun s => groups s _
  | groupDelete n =>
    refine (keeps_check _).bind fun _ => (keeps_ask _).bind fun _ => ?_
    exact keeps_change fun s => groups s _
  | groupUserAdd g u =>
    refine (keeps_ask _).bind fun _ => (keeps_ask _).bind fun _ => ?_
    exact keeps_change fun s => groups s _
  | groupUserDelete g u =>
    refine (keeps_check _).bind fun _ => (keeps_ask _).bind fun _ => (keeps_ask _).bind fun _ => ?_
    exact keeps_change fun s => groups s _
  | groupRoleAdd g r =>
    refine (keeps_ask _).bind fun _ => (keeps_ask _).bind fun _ => ?_
    exact keeps_change fun s => groups s _
  | groupRoleDelete g r =>
    refine (keeps_ask _).bind fun _ => (keeps_ask _).bind fun _ => ?_
    exact keeps_change fun s => groups s _
  | roleCreate n =>
    refine (keeps_check _).bind fun _ => (keeps_ask _).bind fun _ => ?_
    exact keeps_change fun s => roles s _
  | roleDelete n =>
    refine (keeps_ask _).bind fun _ => ?_
    exact (keeps_change fun s => roles s _).bind fun _ => keeps_change fun s => groups s _
  | rolePermissionAdd r b p =>
    refine (keeps_check _).bind fun _ => (keeps_ask _).bind fun _ => ?_
    exact keeps_change fun s => roles s _
  | rolePermissionDelete r b p =>
    refine (keeps_check _).bind fun _ => (keeps_ask _).bind fun _ => ?_
    exact keeps_change fun s => roles s _
  | _ => cases hc

theorem keeps_of_ledger (h : Part.ledger.IgnoredBy f) {c : Call} (hc : c.part? = some .ledger) :
    Keeps f (editFor c) := by
  cases c with
  | requestBegin r =>
    refine (keeps_ask _).bind fun id => (keeps_check _).bind fun _ => ?_
    refine (keeps_change fun s => h s s.requests id).bind fun _ => ?_
    exact (keeps_change fun s => h s _ s.lastRequest).bind fun _ => keeps_pure _
  | requestClose i t e =>
    exact (keeps_ask _).bind fun _ => keeps_change fun s => h s _ s.lastRequest
  | _ => cases hc

theorem keeps_of_layered (h : Part.layered.IgnoredBy f) {c : Call} (hc : c.part? = some .layered) :
    Keeps f (editFor c) := by
  cases c with
  | configCreate v =>
    show Keeps f (createLayered v)
    unfold createLayered
    refine (keeps_check _).bind fun _ => (keeps_ask _).bind fun _ => ?_
    exact keeps_change fun s => h s _
  | configDelete l b o k =>
    show Keeps f (deleteLayered l b o k)
    unfold deleteLayered
    refine (keeps_check _).bind fun _ => (keeps_ask _).bind fun _ => ?_
    exact keeps_change fun s => h s _
  | _ => cases hc

theorem perform_read {c : Call} (hc : c.part? = none) (s : Store) : (perform c s).2 = s := by
  cases c with
  | bundleCreate | bundleDelete | bundleEnable | bundleDisable | userCreate | userUpdate | userDelete
  | groupCreate | groupDelete | groupUserAdd | groupUserDelete | groupRoleAdd | groupRoleDelete
  | roleCreate | roleDelete | rolePermissionAdd | rolePermissionDelete | requestBegin | requestClose
  | configCreate | configDelete => cases hc
  | _ => rfl

theorem perform_keeps {c : Call} (h : ∀ p, c.part? = some p → p.IgnoredBy f) (s : Store) :
    f (perform c s).2 = f s := by
  cases hc : c.part? with
  | none => rw [perform_read hc]
  | some p =>
    have hp := h p hc
    cases p with
    | bundles => exact keeps_of_bundles hp hc s
    | directory => exact keeps_of_directory hp hc s
    | ledger => exact keeps_of_ledger hp hc s
    | layered => exact keeps_of_layered hp hc s

theorem perform_bundles {c : Call} (hc : c.part? ≠ some .bundles) (s : Store) :
    (perform c s).2.bundles = s.bundles := by
  refine perform_keeps (fun p hp => ?_) s
  cases p with
  | bundles => exact absurd hp hc
  | directory => exact fun _ _ _ _ => rfl
  | ledger => exact fun _ _ _ => rfl
  | layered => exact fun _ _ => rfl

theorem perform_directory {c : Call} (hc : c.part? ≠ some .directory) (s : Store) :
    (perform c s).2.users = s.users ∧ (perform c s).2.groups = s.groups ∧
      (perform c s).2.roles = s.roles := by
  have h := perform_keeps (f := fun s => (s.users, s.groups, s.roles)) (c := c) (fun p hp => ?_) s
  · simpa only [Prod.mk.injEq] using h
  · cases p with
    | directory => exact absurd hp hc
    | ledger => exact fun _ _ _ => rfl
    | bundles | layered => exact fun _ _ => rfl

theorem perform_ledger {c : Call} (hc : c.part? ≠ some .ledger) (s : Store) :
    (perform c s).2.requests = s.requests ∧ (perform c s).2.lastRequest = s.lastRequest := by
  have h := perform_keeps (f := fun s => (s.requests, s.lastRequest)) (c := c) (fun p hp => ?_) s
  · simpa only [Prod.mk.injEq] using h
  · cases p with
    | ledger => exact absurd hp hc
    | directory => exact fun _ _ _ _ => rfl
    | bundles | layered => exact fun _ _ => rfl

theorem perform_engine (c : Call) (s : Store) : (perform c s).2.engine = s.engine := by
  refine perform_keeps (fun p _ => ?_) s
  cases p with
  | directory => exact fun _ _ _ _ => rfl
  | ledger => exact fun _ _ _ => rfl
  | bundles | layered => exact fun _ _ => rfl

theorem after_engine (calls : List Call) (s : Store) : (after calls s).engine = s.engine := by
  induction calls generalizing s with
  | nil => rfl
  | cons c calls ih => exact (ih _).trans (perform_engine c s)

theorem hasVersion_insertNew (s : Store) (n : String) (v : Version) :
    hasVersion { s with bundles := s.bundles.insertNew n Shelf.empty } n v = s.hasVersion n v := by
  cases h : s.bundles.get? n <;>
    simp [hasVersion, SortedMap.get?_insertNew_ite, h, Shelf.empty, SortedMap.contains]

theorem contains_of_hasVersion {s : Store} {n : String} {v : Version} (h : s.hasVersion n v = true) :
    s.bundles.contains n = true := by
  cases hn : s.bundles.get? n with
  | none => simp [hasVersion, hn] at h
  | some shelf => simp [SortedMap.contains, hn]

theorem undone_createBundle (b : Bundle) : Undone (createBundle b) := by
  refine .check_bind fun v => .ask_bind fun i => ?_
  intro s x hx
  rw [run_bind, run_change] at hx ⊢
  simp only at hx ⊢
  rw [run_bind, run_ask] at hx ⊢
  split at hx
  · exfalso
    cases he : b.enabled <;> rw [he] at hx <;> cases hx
  · rename_i e t h
    split at h
    · rename_i hv
      obtain rfl : _ = t := congrArg Prod.snd h
      rw [hasVersion_insertNew] at hv
      simp [SortedMap.insertNew, contains_of_hasVersion hv]
    · cases h

theorem perform_refused {c : Call} {s : Store} {e : DataError} (h : (perform c s).1 = .error e) :
    (perform c s).2 = s := by
  revert s e
  suffices Undone (editFor c) from fun {s e} => this s e
  cases c with
  | bundleCreate b => exact undone_createBundle b
  | bundleDelete n v => exact .ask_bind fun _ => undone_change_change _ _
  | bundleEnable n v => exact .ask_bind fun _ => undone_change _
  | bundleDisable n v => exact .ask_bind fun _ => undone_change _
  | userCreate u => exact .check_bind fun _ => .ask_bind fun _ => .ask_bind fun _ => undone_change _
  | userUpdate u => exact .ask_bind fun _ => .ask_bind fun _ => undone_change _
  | userDelete n => exact .check_bind fun _ => .ask_bind fun _ => undone_change_change _ _
  | groupCreate n => exact .check_bind fun _ => .ask_bind fun _ => undone_change _
  | groupDelete n => exact .check_bind fun _ => .ask_bind fun _ => undone_change _
  | groupUserAdd g u => exact .ask_bind fun _ => .ask_bind fun _ => undone_change _
  | groupUserDelete g u =>
    exact .check_bind fun _ => .ask_bind fun _ => .ask_bind fun _ => undone_change _
  | groupRoleAdd g r => exact .ask_bind fun _ => .ask_bind fun _ => undone_change _
  | groupRoleDelete g r => exact .ask_bind fun _ => .ask_bind fun _ => undone_change _
  | roleCreate n => exact .check_bind fun _ => .ask_bind fun _ => undone_change _
  | roleDelete n => exact .ask_bind fun _ => undone_change_change _ _
  | rolePermissionAdd r b p => exact .check_bind fun _ => .ask_bind fun _ => undone_change _
  | rolePermissionDelete r b p => exact .check_bind fun _ => .ask_bind fun _ => undone_change _
  | requestBegin r =>
    exact .ask_bind fun _ => .check_bind fun _ => fun _ _ h => by cases h
  | requestClose i t e => exact .ask_bind fun _ => undone_change _
  | configCreate v =>
    show Undone (createLayered v)
    unfold createLayered
    exact .check_bind fun _ => .ask_bind fun _ => undone_change _
  | configDelete l b o k =>
    show Undone (deleteLayered l b o k)
    unfold deleteLayered
    exact .check_bind fun _ => .ask_bind fun _ => undone_change _
  | _ => exact undone_ask _

theorem perform_induction {P : Store → Prop} {c : Call} {s : Store} (h : P s)
    (hstep : ∀ ⦃r t⦄, perform c s = (.ok r, t) → P t) : P (perform c s).2 := by
  cases hp : (perform c s).1 with
  | error e => rwa [perform_refused hp]
  | ok r => exact hstep (Prod.ext hp rfl)

end Store

end ChatRouter
