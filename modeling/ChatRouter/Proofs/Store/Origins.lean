import ChatRouter.Proofs.Store.Enabling

set_option autoImplicit false

namespace ChatRouter

theorem Entries.filter_key_eq {κ α : Type} [Ord κ] [Std.LawfulEqOrd κ] [BEq κ] [LawfulBEq κ]
    {entries : List (κ × α)} (h : Sorted entries) {k : κ} {a : α} (hm : (k, a) ∈ entries) :
    (entries.filter fun e => k == e.1) = [(k, a)] := by
  have hmem : (k, a) ∈ entries.filter fun e => k == e.1 := List.mem_filter.2 ⟨hm, beq_self_eq_true k⟩
  have hone := Store.length_filter_key_le h k
  obtain ⟨e, he⟩ := List.length_eq_one_iff.1 (Nat.le_antisymm hone (List.length_pos_of_mem hmem))
  rw [he] at hmem ⊢
  rw [List.mem_singleton.1 hmem]

namespace Bundle

/-- Every command has the name of its key, as in the bundles of manifests. -/
def KeyedByName (b : Bundle) : Prop := ∀ k c, (k, c) ∈ b.commands.entries → c.name = k

def namesakes (b : Bundle) (name : String) : List Command := b.commands.values.filter (·.name == name)

/-- The checked bundle is installed as `i` under the name and the version. -/
structure InstalledAs (engine : Regex.Engine) (b : Bundle) (n : String) (v : Version) (i : Installed) : Prop where
  name : b.name = n
  checked : b.validate = .ok v
  compiled : Installed.compile engine b = .ok i

variable {b : Bundle} {v : Version}

theorem validate_names (h : b.validate = .ok v) :
    ':' ∉ b.name.toList ∧ ∀ k c, (k, c) ∈ b.commands.entries → c.name ≠ "" := by
  unfold validate at h
  split at h
  · cases h
  · split at h
    · cases h
    · rename_i hcolon
      split at h
      · cases h
      · split at h
        · rename_i hnamed
          refine ⟨by simpa using hcolon, fun k c hc he => ?_⟩
          have := List.all_eq_true.1 hnamed _ hc
          rw [he] at this
          simp [Text.isBlankText, Text.allBlank] at this
        · cases h

theorem namesakes_of_keyedByName (h : b.KeyedByName) {k : String} {c : Command}
    (hc : (k, c) ∈ b.commands.entries) : b.namesakes c.name = [c] := by
  have hvalues : b.commands.values.filter (·.name == c.name) =
      (b.commands.entries.filter fun e => k == e.1).map (·.2) := by
    rw [SortedMap.values, List.filter_map]
    refine congrArg _ (List.filter_congr fun e he => ?_)
    rw [Function.comp_apply, h k c hc, h e.1 e.2 he, Bool.eq_iff_iff, beq_iff_eq, beq_iff_eq, eq_comm]
  rw [namesakes, hvalues, Entries.filter_key_eq b.commands.sorted hc]
  rfl

end Bundle

namespace Store

variable {s t : Store} {c : Call} {n : String} {v : Version} {i : Installed}

theorem installed_step {r : c.Reply} (h : perform c s = (.ok r, t)) (hi : t.installed? n v = some i) :
    s.installed? n v = some i ∨ ∃ b, c = .bundleCreate b ∧ b.InstalledAs s.engine n v i := by
  by_cases hp : c.part? = some .bundles
  · cases c with
    | bundleCreate b =>
      obtain ⟨w, j, hw, hj, -, rfl⟩ := createBundle_ok h
      have look : (s.put b.name w j).installed? n v = some i := by
        split at hi
        · rwa [installed?_enable] at hi
        · exact hi
      rw [installed?_put] at look
      split at look
      · rename_i he
        cases look
        exact .inr ⟨b, rfl, he.1.symm, he.2 ▸ hw, hj⟩
      · exact .inl look
    | bundleDelete m text =>
      obtain ⟨w, -, rfl⟩ := deleteBundle_ok h
      rw [installed?_withdraw] at hi
      split at hi
      · cases hi
      · exact .inl hi
    | bundleEnable m text =>
      obtain ⟨w, -, rfl⟩ := enableBundle_ok h
      rw [installed?_enable] at hi
      exact .inl hi
    | bundleDisable m text =>
      obtain ⟨w, -, rfl⟩ := disableBundle_ok h
      rw [installed?_disable] at hi
      exact .inl hi
    | _ => cases hp
  · have hb := perform_bundles hp s
    rw [h] at hb
    refine .inl ?_
    rwa [installed?, ← hb]

theorem installed_origin {engine : Regex.Engine} (calls : List Call)
    (hi : (after calls (new engine)).installed? n v = some i) :
    ∃ b, .bundleCreate b ∈ successes calls (new engine) ∧ b.InstalledAs engine n v i := by
  suffices h : ∀ {i}, (after calls (new engine)).installed? n v = some i →
      ∃ b, .bundleCreate b ∈ successes calls (new engine) ∧
        b.InstalledAs (after calls (new engine)).engine n v i by
    rw [after_engine] at h
    exact h hi
  refine successes_induction (P := fun log s => ∀ {i}, s.installed? n v = some i →
    ∃ b, .bundleCreate b ∈ log ∧ b.InstalledAs s.engine n v i) (fun h => by cases h) ?_ calls
  intro log s c r t _ ih hc i hi
  have hengine : t.engine = s.engine := by
    rw [← perform_engine c s, hc]
  rw [hengine]
  rcases installed_step hc hi with hold | ⟨b, rfl, hbi⟩
  · obtain ⟨b, hb, hbi⟩ := ih hold
    exact ⟨b, List.mem_append_left _ hb, hbi⟩
  · exact ⟨b, by simp, hbi⟩

theorem Reachable.installedAs (hr : s.Reachable) (hi : s.installed? n v = some i) :
    ∃ b : Bundle, b.InstalledAs s.engine n v i := by
  obtain ⟨engine, calls, rfl⟩ := hr
  obtain ⟨b, -, hb⟩ := installed_origin calls hi
  exact ⟨b, by rwa [after_engine]⟩

/-- The command is listed with the bundle of an enabled version. -/
structure Lists (s : Store) (b : Bundle) (k : String) (c : Command) (v : Version) (i : Installed) : Prop where
  enabled : s.enabled? b.name = some v
  installed : s.installed? b.name v = some i
  shown : b = { i.bundle with enabled := true }
  key : (k, c) ∈ b.commands.entries

theorem lists_of_mem_listing (hs : s.ShelvesSound) {b : Bundle} {k : String} {c : Command}
    (h : (b, k, c) ∈ s.listing) : ∃ v i, s.Lists b k c v i := by
  obtain ⟨i, hi, h⟩ := List.mem_flatMap.1 h
  obtain ⟨n, v, hv, hi⟩ := (mem_currentOf_iff s i).1 hi
  obtain ⟨hname, -, -⟩ := hs.installed n v i hi
  obtain ⟨⟨k, c⟩, hc, he⟩ := List.mem_map.1 h
  cases he
  subst hname
  exact ⟨v, i, hv, hi, rfl, hc⟩

theorem mem_findEntries_iff (s : Store) (e : Entry) :
    e ∈ s.findEntries "" "" ↔ ∃ k, (e.bundle, k, e.command) ∈ s.listing := by
  rw [findEntries_eq, List.mem_map]
  constructor
  · rintro ⟨⟨b, k, c⟩, h, rfl⟩
    exact ⟨k, h⟩
  · rintro ⟨k, h⟩
    exact ⟨_, h, rfl⟩

variable {b : Bundle} {k : String} {d : Command}

theorem Lists.names (h : s.Lists b k d v i) (hr : s.Reachable) :
    b.name ≠ "" ∧ ':' ∉ b.name.toList ∧ d.name ≠ "" := by
  obtain ⟨origin, hname, hchecked, hcompiled⟩ := hr.installedAs h.installed
  obtain ⟨hcolon, hnamed⟩ := Bundle.validate_names hchecked
  have hkey := h.key
  rw [h.shown, Installed.compile_ok hcompiled] at hkey
  rw [← hname]
  exact ⟨(Bundle.validate_ok hchecked).1, hcolon, hnamed k d hkey⟩

theorem currentOf_eq {shelf : Shelf} (hn : n ≠ "") (hs : s.bundles.get? n = some shelf) :
    s.currentOf n = shelf.current.toList := by
  have hpick : (s.bundles.entries.filter fun e => n.isEmpty || e.1 == n) = [(n, shelf)] := by
    rw [← Entries.filter_key_eq s.bundles.sorted ((SortedMap.mem_entries_iff _ _ _).2 hs)]
    refine List.filter_congr fun e _ => ?_
    rw [show n.isEmpty = false by simpa using hn, Bool.false_or, Bool.eq_iff_iff, beq_iff_eq, beq_iff_eq, eq_comm]
  rw [currentOf, hpick]
  cases hc : shelf.current <;> simp [hc]

theorem Lists.findEntries_eq (h : s.Lists b k d v i) (hr : s.Reachable) {name : String} (hname : name ≠ "") :
    s.findEntries b.name name = (b.namesakes name).map fun c => ⟨b, c⟩ := by
  obtain ⟨shelf, hshelf, hv⟩ := Option.bind_eq_some_iff.1 h.enabled
  have hcurrent : shelf.current = some i := by
    have hi := h.installed
    rw [installed?, hshelf, Option.bind_some] at hi
    rw [Shelf.current, hv, Option.bind_some, hi]
  have hentry : i.entry = fun c => ⟨b, c⟩ := by
    funext c
    rw [Installed.entry, ← h.shown]
  have hcommands : i.bundle.commands = b.commands := by rw [h.shown]
  rw [findEntries, currentOf_eq (h.names hr).1 hshelf, hcurrent, Option.toList_some, List.flatMap_singleton,
    Installed.entriesNamed, hentry, hcommands, Bundle.namesakes]
  refine congrArg _ (List.filter_congr fun c _ => ?_)
  simp [hname]

/-- Every installed bundle is keyed by name. -/
def KeyedByName (s : Store) : Prop := ∀ b ∈ s.bundleList, b.KeyedByName

theorem mem_bundleList_iff (s : Store) (b : Bundle) :
    b ∈ s.bundleList ↔ ∃ n v i, s.installed? n v = some i ∧ s.shown n v i = b := by
  rw [bundleList, List.mem_flatMap]
  constructor
  · rintro ⟨shelf, hshelf, hb⟩
    obtain ⟨n, hn⟩ := (SortedMap.mem_values_iff _ _).1 hshelf
    refine ⟨n, (mem_versions_iff s n b).1 ?_⟩
    rwa [hn]
  · rintro ⟨n, hb⟩
    have hb := (mem_versions_iff s n b).2 hb
    cases hn : s.bundles.get? n with
    | none =>
      rw [hn] at hb
      cases hb
    | some shelf =>
      rw [hn] at hb
      exact ⟨shelf, (SortedMap.mem_values_iff _ _).2 ⟨n, hn⟩, hb⟩

theorem Lists.keyedByName (h : s.Lists b k d v i) (hk : s.KeyedByName) : b.KeyedByName := by
  have := hk _ ((mem_bundleList_iff s _).2 ⟨b.name, v, i, h.installed, rfl⟩)
  rw [h.shown]
  exact this

theorem keyedByName_of_created {engine : Regex.Engine} {calls : List Call}
    (h : ∀ b, .bundleCreate b ∈ successes calls (new engine) → b.KeyedByName) :
    (after calls (new engine)).KeyedByName := by
  intro b hb
  obtain ⟨n, v, i, hi, rfl⟩ := (mem_bundleList_iff _ _).1 hb
  obtain ⟨origin, horigin, -, -, hcompiled⟩ := installed_origin calls hi
  have hkeyed := h origin horigin
  unfold Bundle.KeyedByName shown at *
  rwa [Installed.compile_ok hcompiled]

end Store

end ChatRouter
