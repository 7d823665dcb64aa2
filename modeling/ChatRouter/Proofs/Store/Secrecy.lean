import ChatRouter.Proofs.Exchanges
import ChatRouter.Proofs.Store.Edits
import ChatRouter.Regex.Parser
import Mathlib.Data.List.Forall2

set_option autoImplicit false

namespace ChatRouter

def Store.withLayered (s : Store) (m : SortedMap Slot LayeredValue) : Store := { s with layered := m }

namespace Edit

variable {α β : Type}

/-- It neither reads nor changes the layered values. -/
def Unaware (e : Edit α) : Prop :=
  ∀ s m, e.run (s.withLayered m) = ((e.run s).1, (e.run s).2.withLayered m)

theorem unaware_ask {g : Store → Except DataError α} (h : ∀ s m, g (s.withLayered m) = g s) :
    Unaware (ask g) := by
  intro s m
  rw [run_ask, run_ask, h]

theorem unaware_check (x : Except DataError α) : Unaware (check x) := fun _ _ => rfl

theorem unaware_pure (a : α) : Unaware (pure a : Edit α) := fun _ _ => rfl

theorem unaware_change {g : Store → Store} (h : ∀ s m, g (s.withLayered m) = (g s).withLayered m) :
    Unaware (change g) := by
  intro s m
  rw [run_change, run_change, h]

theorem Unaware.bind {e : Edit α} {g : α → Edit β} (he : Unaware e) (hg : ∀ a, Unaware (g a)) :
    Unaware (e >>= g) := by
  intro s m
  rw [run_bind, run_bind, he s m]
  rcases e.run s with ⟨x, t⟩
  cases x with
  | ok a => exact hg a t m
  | error x => rfl

end Edit

def Call.isLayered : Call → Bool
  | configCreate _ | configGet _ _ _ _ | configDelete _ _ _ _ | configExists _ _ _ _ | configList _ _ _ _ => true
  | _ => false

namespace Store

open Edit

variable {s t : Store} {c d : Call}

theorem unaware_editFor (hc : c.isLayered = false) : Unaware (editFor c) := by
  cases c with
  | configCreate | configGet | configDelete | configExists | configList => cases hc
  | bundleCreate b =>
    refine (unaware_check _).bind fun v => (unaware_ask fun _ _ => rfl).bind fun i => ?_
    refine (unaware_change fun _ _ => rfl).bind fun _ => (unaware_ask fun _ _ => rfl).bind fun _ => ?_
    refine (unaware_change fun _ _ => rfl).bind fun _ => ?_
    cases b.enabled
    · exact unaware_pure ()
    · exact unaware_change fun _ _ => rfl
  | bundleDelete n v =>
    refine (unaware_ask fun _ _ => rfl).bind fun v => (unaware_change fun _ _ => rfl).bind fun _ => ?_
    refine unaware_change fun s m => ?_
    have hbundles : (s.withLayered m).bundles = s.bundles := rfl
    simp only [hbundles]
    split <;> rfl
  | bundleEnable n v | bundleDisable n v =>
    exact (unaware_ask fun _ _ => rfl).bind fun v => unaware_change fun _ _ => rfl
  | userCreate u =>
    refine (unaware_check _).bind fun _ => (unaware_ask fun _ _ => rfl).bind fun _ => ?_
    exact (unaware_ask fun _ _ => rfl).bind fun _ => unaware_change fun _ _ => rfl
  | userUpdate u =>
    refine (unaware_ask fun _ _ => rfl).bind fun _ => (unaware_ask fun _ _ => rfl).bind fun _ => ?_
    refine unaware_change fun s m => ?_
    have husers : (s.withLayered m).users = s.users := rfl
    simp only [husers]
    cases s.users.get? u.username <;> rfl
  | userDelete n =>
    refine (unaware_check _).bind fun _ => (unaware_ask fun _ _ => rfl).bind fun _ => ?_
    exact (unaware_change fun _ _ => rfl).bind fun _ => unaware_change fun _ _ => rfl
  | groupCreate n | groupDelete n | roleCreate n =>
    refine (unaware_check _).bind fun _ => (unaware_ask fun _ _ => rfl).bind fun _ => ?_
    exact unaware_change fun _ _ => rfl
  | rolePermissionAdd r b p | rolePermissionDelete r b p =>
    refine (unaware_check _).bind fun _ => (unaware_ask fun _ _ => rfl).bind fun _ => ?_
    exact unaware_change fun _ _ => rfl
  | groupUserAdd g x | groupRoleAdd g x | groupRoleDelete g x =>
    refine (unaware_ask fun _ _ => rfl).bind fun _ => (unaware_ask fun _ _ => rfl).bind fun _ => ?_
    exact unaware_change fun _ _ => rfl
  | groupUserDelete g u =>
    refine (unaware_check _).bind fun _ => (unaware_ask fun _ _ => rfl).bind fun _ => ?_
    exact (unaware_ask fun _ _ => rfl).bind fun _ => unaware_change fun _ _ => rfl
  | roleDelete n =>
    refine (unaware_ask fun _ _ => rfl).bind fun _ => ?_
    exact (unaware_change fun _ _ => rfl).bind fun _ => unaware_change fun _ _ => rfl
  | requestBegin r =>
    refine (unaware_ask fun _ _ => rfl).bind fun id => (unaware_check _).bind fun _ => ?_
    refine (unaware_change fun _ _ => rfl).bind fun _ => (unaware_change fun _ _ => rfl).bind fun _ => ?_
    exact unaware_pure _
  | requestClose i x e => exact (unaware_ask fun _ _ => rfl).bind fun _ => unaware_change fun _ _ => rfl
  | _ => exact unaware_ask fun _ _ => rfl

/-- The same but for the values of secrets. -/
structure SameShown (s t : Store) : Prop where
  rest : t = s.withLayered t.layered
  shown : ∀ slot, (s.layered.get? slot).map LayeredValue.redacted = (t.layered.get? slot).map LayeredValue.redacted

theorem SameShown.refl (s : Store) : SameShown s s := ⟨rfl, fun _ => rfl⟩

end Store

theorem LayeredValue.eq_or_secret {v w : LayeredValue} (h : v.redacted = w.redacted) :
    v = w ∨ (v.slot = w.slot ∧ v.secret = true ∧ w.secret = true) := by
  unfold redacted at h
  split at h <;> split at h
  · rename_i hv hw
    have hslot := congrArg slot h
    exact .inr ⟨hslot, hv, hw⟩
  · rename_i hv hw
    exact absurd ((congrArg secret h).symm.trans hv) hw
  · rename_i hv hw
    exact absurd ((congrArg secret h).trans hw) hv
  · exact .inl h

/-- Calls that are equal but for the value of a secret. -/
inductive Call.Veiled : Call → Call → Prop where
  | same (c : Call) : Veiled c c
  | secret {v w : LayeredValue} (slot : v.slot = w.slot) (left : v.secret = true) (right : w.secret = true) :
    Veiled (configCreate v) (configCreate w)

/-- Exchanges that differ only in the value of a secret: in the call that stores it, which is answered alike, or in
the answer to a call that reads it. -/
inductive Call.Indistinct : Exchange Call Answer → Exchange Call Answer → Prop where
  | same (x : Exchange Call Answer) : Indistinct x x
  | stored {v w : LayeredValue} (slot : v.slot = w.slot) (left : v.secret = true) (right : w.secret = true)
    (answer : Except DataError Unit) : Indistinct ⟨configCreate v, answer⟩ ⟨configCreate w, answer⟩
  | read (layer bundle owner key : String) {v w : LayeredValue} (slot : v.slot = w.slot) (left : v.secret = true)
    (right : w.secret = true) :
    Indistinct ⟨configGet layer bundle owner key, .ok v⟩ ⟨configGet layer bundle owner key, .ok w⟩

namespace Store

open Edit

variable {s t : Store} {c d : Call}

theorem SameShown.contains (h : SameShown s t) (slot : Slot) :
    s.layered.contains slot = t.layered.contains slot := by
  have hsome := congrArg Option.isSome (h.shown slot)
  simpa [SortedMap.contains] using hsome

theorem SameShown.values (h : SameShown s t) :
    s.layered.values.map LayeredValue.redacted = t.layered.values.map LayeredValue.redacted := by
  have hmap : s.layered.mapValues (fun _ v => v.redacted) = t.layered.mapValues fun _ v => v.redacted := by
    apply SortedMap.ext_get?
    intro slot
    rw [SortedMap.get?_mapValues, SortedMap.get?_mapValues, h.shown]
  rw [← SortedMap.values_mapValues, ← SortedMap.values_mapValues, hmap]

theorem SameShown.unaware (h : SameShown s t) (hc : c.isLayered = false) :
    (perform c s).1 = (perform c t).1 ∧ SameShown (perform c s).2 (perform c t).2 := by
  have hlayered : (perform c s).2.layered = s.layered := by
    refine perform_keeps (fun p hp => ?_) s
    cases p with
    | layered =>
      cases c with
      | configCreate | configDelete => cases hc
      | _ => cases hp
    | bundles => exact fun _ _ => rfl
    | directory => exact fun _ _ _ _ => rfl
    | ledger => exact fun _ _ _ => rfl
  have hrun : perform c t = ((perform c s).1, (perform c s).2.withLayered t.layered) := by
    rw [h.rest]
    exact unaware_editFor hc s _
  rw [hrun]
  refine ⟨rfl, rfl, fun slot => ?_⟩
  rw [hlayered]
  exact h.shown slot

theorem SameShown.withLayered (h : SameShown s t) {m n : SortedMap Slot LayeredValue}
    (hmn : ∀ slot, (m.get? slot).map LayeredValue.redacted = (n.get? slot).map LayeredValue.redacted) :
    SameShown (s.withLayered m) (t.withLayered n) := by
  refine ⟨?_, hmn⟩
  rw [h.rest]
  rfl

theorem perform_configCreate (v : LayeredValue) (s : Store) : perform (.configCreate v) s =
    match v.slot.check with
    | .error e => (.error e, s)
    | .ok () =>
      if s.layered.contains v.slot then (.error (.configurationExists v.slot.path), s)
      else (.ok (), s.withLayered (s.layered.insert v.slot v)) := by
  change (createLayered v).run s = _
  rw [createLayered, run_bind, run_check]
  cases v.slot.check with
  | error e => rfl
  | ok =>
    change (_ >>= _ : Edit Unit).run s = _
    rw [run_bind, run_ask]
    by_cases h : s.layered.contains v.slot = true
    · rw [if_pos h]
      exact (if_pos h).symm
    · rw [if_neg h]
      exact (if_neg h).symm

theorem perform_configDelete (layer bundle owner key : String) (s : Store) :
    perform (.configDelete layer bundle owner key) s =
      match Slot.parse layer bundle owner key with
      | .error e => (.error e, s)
      | .ok slot =>
        if s.layered.contains slot then (.ok (), s.withLayered (s.layered.erase slot))
        else (.error (.noSuchConfiguration slot.path), s) := by
  change (deleteLayered layer bundle owner key).run s = _
  rw [deleteLayered, run_bind, run_check]
  cases Slot.parse layer bundle owner key with
  | error e => rfl
  | ok slot =>
    change (_ >>= _ : Edit Unit).run s = _
    rw [run_bind, run_ask]
    by_cases h : s.layered.contains slot = true
    · rw [if_pos h]
      exact (if_pos h).symm
    · rw [if_neg h]
      exact (if_neg h).symm

theorem SameShown.create (h : SameShown s t) {v w : LayeredValue} (hslot : v.slot = w.slot)
    (hvw : v.redacted = w.redacted) : (perform (.configCreate v) s).1 = (perform (.configCreate w) t).1 ∧
      SameShown (perform (.configCreate v) s).2 (perform (.configCreate w) t).2 := by
  rw [perform_configCreate, perform_configCreate, ← hslot, h.contains]
  cases v.slot.check with
  | error e => exact ⟨rfl, h⟩
  | ok =>
    simp only
    split
    · exact ⟨rfl, h⟩
    · refine ⟨rfl, h.withLayered fun slot => ?_⟩
      rw [SortedMap.get?_insert_ite, SortedMap.get?_insert_ite]
      split
      · exact congrArg some hvw
      · exact h.shown slot

theorem SameShown.delete (h : SameShown s t) (layer bundle owner key : String) :
    (perform (.configDelete layer bundle owner key) s).1 = (perform (.configDelete layer bundle owner key) t).1 ∧
      SameShown (perform (.configDelete layer bundle owner key) s).2
        (perform (.configDelete layer bundle owner key) t).2 := by
  rw [perform_configDelete, perform_configDelete]
  cases Slot.parse layer bundle owner key with
  | error e => exact ⟨rfl, h⟩
  | ok slot =>
    simp only [h.contains]
    split
    · refine ⟨rfl, h.withLayered fun other => ?_⟩
      rw [SortedMap.get?_erase_ite, SortedMap.get?_erase_ite]
      split
      · rfl
      · exact h.shown other
    · exact ⟨rfl, h⟩

theorem SameShown.list (h : SameShown s t) (layer bundle owner key : String) :
    s.layeredList layer bundle owner key = t.layeredList layer bundle owner key := by
  unfold layeredList
  cases Layer.parse layer with
  | error e => rfl
  | ok l =>
    let passes (v : LayeredValue) : Bool :=
      v.slot.layer == l && Slot.matchesFilter bundle v.slot.bundle && Slot.matchesFilter owner v.slot.owner &&
        Slot.matchesFilter key v.slot.key
    have hpasses (v : LayeredValue) : passes v.redacted = passes v := by
      unfold LayeredValue.redacted
      split <;> rfl
    -- The filters look at slots only, so hiding the secrets may as well come first.
    have hshown (vs : List LayeredValue) :
        (vs.filter passes).map LayeredValue.redacted = (vs.map LayeredValue.redacted).filter passes := by
      rw [List.filter_map]
      congr 2
      funext v
      exact (hpasses v).symm
    change Except.ok ((s.layered.values.filter passes).map _) = Except.ok ((t.layered.values.filter passes).map _)
    rw [hshown, hshown, h.values]

theorem SameShown.exists (h : SameShown s t) (layer bundle owner key : String) :
    s.layeredExists layer bundle owner key = t.layeredExists layer bundle owner key := by
  unfold layeredExists
  rw [funext h.contains]

theorem layeredAt_some {layer bundle owner key : String} {slot : Slot} {v : LayeredValue}
    (hslot : Slot.parse layer bundle owner key = .ok slot) (hv : s.layered.get? slot = some v) :
    s.layeredAt layer bundle owner key = .ok v := by
  simp [layeredAt, hslot, hv, bind, Except.bind]

theorem layeredAt_none {layer bundle owner key : String} {slot : Slot}
    (hslot : Slot.parse layer bundle owner key = .ok slot) (hv : s.layered.get? slot = none) :
    s.layeredAt layer bundle owner key = .error (.noSuchConfiguration slot.path) := by
  simp [layeredAt, hslot, hv, bind, Except.bind]

theorem SameShown.get (h : SameShown s t) (layer bundle owner key : String) :
    Call.Indistinct ⟨.configGet layer bundle owner key, s.layeredAt layer bundle owner key⟩
      ⟨.configGet layer bundle owner key, t.layeredAt layer bundle owner key⟩ := by
  cases hslot : Slot.parse layer bundle owner key with
  | error e =>
    rw [layeredAt, layeredAt, hslot]
    exact .same _
  | ok slot =>
    have hshown := (h.shown slot).symm
    cases hs : s.layered.get? slot with
    | none =>
      have ht : t.layered.get? slot = none := by
        simpa only [hs, Option.map_none, Option.map_eq_none_iff] using hshown
      rw [layeredAt_none hslot hs, layeredAt_none hslot ht]
      exact .same _
    | some v =>
      obtain ⟨w, ht, hvw⟩ : ∃ w, t.layered.get? slot = some w ∧ w.redacted = v.redacted := by
        simpa only [hs, Option.map_some, Option.map_eq_some_iff] using hshown
      rw [layeredAt_some hslot hs, layeredAt_some hslot ht]
      rcases LayeredValue.eq_or_secret hvw with rfl | ⟨hsame, hw, hv⟩
      · exact .same _
      · exact .read layer bundle owner key hsame.symm hv hw

theorem SameShown.step (h : SameShown s t) (hcd : c.Veiled d) :
    Call.Indistinct ⟨c, (perform c s).1⟩ ⟨d, (perform d t).1⟩ ∧ SameShown (perform c s).2 (perform d t).2 := by
  have alike {c : Call} (hc : (perform c s).1 = (perform c t).1 ∧ SameShown (perform c s).2 (perform c t).2) :
      Call.Indistinct ⟨c, (perform c s).1⟩ ⟨c, (perform c t).1⟩ ∧ SameShown (perform c s).2 (perform c t).2 := by
    rw [hc.1]
    exact ⟨.same _, hc.2⟩
  cases hcd with
  | @secret v w hslot hv hw =>
    have hvw : v.redacted = w.redacted := by
      rw [LayeredValue.redacted, LayeredValue.redacted, if_pos hv, if_pos hw, hslot, hv, hw]
    obtain ⟨hanswer, hafter⟩ := h.create hslot hvw
    rw [hanswer]
    exact ⟨.stored hslot hv hw _, hafter⟩
  | same c =>
    cases hc : c.isLayered with
    | false => exact alike (h.unaware hc)
    | true =>
      cases c with
      | configCreate v => exact alike (h.create rfl rfl)
      | configDelete layer bundle owner key => exact alike (h.delete layer bundle owner key)
      | configGet layer bundle owner key => exact ⟨h.get layer bundle owner key, h⟩
      | configExists layer bundle owner key => exact alike ⟨h.exists layer bundle owner key, h⟩
      | configList layer bundle owner key => exact alike ⟨h.list layer bundle owner key, h⟩
      | _ => cases hc

def exchanges : List Call → Store → List (Exchange Call Call.Answer)
  | [], _ => []
  | c :: rest, s => ⟨c, (perform c s).1⟩ :: exchanges rest (perform c s).2

theorem SameShown.run (h : SameShown s t) {cs ds : List Call} (hcalls : List.Forall₂ Call.Veiled cs ds) :
    List.Forall₂ Call.Indistinct (exchanges cs s) (exchanges ds t) := by
  induction hcalls generalizing s t with
  | nil => exact .nil
  | cons hcd _ ih =>
    obtain ⟨halike, hnext⟩ := h.step hcd
    exact .cons halike (ih hnext)

/-- No call tells the value of a secret but the one that reads it by its slot: when calls differ only in such values,
each is answered alike in both runs, or it is a read that finds a secret of one slot in both. -/
theorem secrets_stay_hidden (engine : Regex.Engine) {cs ds : List Call} (hcalls : List.Forall₂ Call.Veiled cs ds) :
    List.Forall₂ Call.Indistinct (exchanges cs (new engine)) (exchanges ds (new engine)) :=
  (SameShown.refl (new engine)).run hcalls

def token (value : String) : LayeredValue := ⟨⟨.bundle, "deploy", "", "token"⟩, value, true⟩

/-- Stores the token, fails to store it again, and then lists, reads and deletes it. -/
def tokenCalls (value : String) : List Call :=
  [.configCreate (token value), .configCreate (token value), .configList "bundle" "*" "" "",
    .configGet "bundle" "deploy" "" "token", .configDelete "bundle" "deploy" "" "token"]

theorem tokens_stay_hidden : List.Forall₂ Call.Veiled (tokenCalls "hunter2") (tokenCalls "letmein") ∧
    List.Forall₂ Call.Indistinct (exchanges (tokenCalls "hunter2") (new .standard))
      (exchanges (tokenCalls "letmein") (new .standard)) ∧
    (perform (.configGet "bundle" "deploy" "" "token") (after [.configCreate (token "hunter2")] (new .standard))).1 =
      .ok (token "hunter2") := by
  have hcreate : Call.Veiled (.configCreate (token "hunter2")) (.configCreate (token "letmein")) := .secret rfl rfl rfl
  have hcalls : List.Forall₂ Call.Veiled (tokenCalls "hunter2") (tokenCalls "letmein") :=
    .cons hcreate (.cons hcreate (.cons (.same _) (.cons (.same _) (.cons (.same _) .nil))))
  exact ⟨hcalls, secrets_stay_hidden .standard hcalls, by decide +kernel⟩

end Store

end ChatRouter
