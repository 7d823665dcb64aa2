import ChatRouter.Proofs.Naming
import ChatRouter.Proofs.Text.Bytes
import ChatRouter.Regex.Parser

set_option autoImplicit false

namespace ChatRouter

open Script (Asks Leads)
open Store (after successes perform)

theorem flatMap_filter {α β : Type} (p : α → Bool) (f : α → List β) (xs : List α) :
    (xs.filter p).flatMap f = xs.flatMap fun x => if p x then f x else [] := by
  induction xs with
  | nil => rfl
  | cons x xs ih =>
    rw [List.filter_cons, List.flatMap_cons, ← ih]
    cases p x <;> rfl

namespace Store

variable {s : Store} {e : Entry} {bundle command : String}

/-- The bundle is in the store and enabled, and the command is one of its commands. -/
def Offers (s : Store) (e : Entry) : Prop :=
  e.bundle.enabled = true ∧ e.command ∈ e.bundle.commands.values ∧
    (perform (.bundleGet e.bundle.name e.bundle.version) s).1 = .ok e.bundle

theorem offers_iff (hs : s.ShelvesSound) : s.Offers e ↔ e ∈ s.findEntries "" "" := by
  simp only [mem_findEntries_iff, mem_listing_iff hs, Offers, SortedMap.mem_values_iff, ← SortedMap.mem_entries_iff]
  constructor
  · rintro ⟨henabled, ⟨k, hk⟩, hget⟩
    exact ⟨k, henabled, hk, hget⟩
  · rintro ⟨k, henabled, hk, hget⟩
    exact ⟨henabled, ⟨k, hk⟩, hget⟩

theorem Offers.names (he : s.Offers e) (hr : s.Reachable) :
    e.bundle.name ≠ "" ∧ ':' ∉ e.bundle.name.toList ∧ e.command.name ≠ "" := by
  obtain ⟨k, hk⟩ := (mem_findEntries_iff s e).1 ((offers_iff hr.shelvesSound).1 he)
  obtain ⟨v, i, hl⟩ := lists_of_mem_listing hr.shelvesSound hk
  exact hl.names hr

theorem currentOf_eq_filter (hs : s.ShelvesSound) (bundle : String) :
    s.currentOf bundle = (s.currentOf "").filter fun i => bundle.isEmpty || i.bundle.name == bundle := by
  have hname : ∀ x ∈ s.bundles.entries, ∀ i, x.2.current = some i → i.bundle.name = x.1 := by
    rintro ⟨n, shelf⟩ hx i hi
    obtain ⟨v, -, hv⟩ := Option.bind_eq_some_iff.1 hi
    have hshelf := (SortedMap.mem_entries_iff _ _ _).1 hx
    exact (hs.installed n v i (by rw [installed?, hshelf, Option.bind_some, hv])).1
  rw [currentOf, currentOf, List.filter_filterMap, List.filterMap_filter, List.filterMap_filter]
  refine List.filterMap_congr fun x hx => ?_
  cases hc : x.2.current with
  | none => simp
  | some i =>
    rw [← hname x hx i hc]
    simp [Option.filter_some]

theorem findEntries_eq_filter (hs : s.ShelvesSound) (bundle command : String) :
    s.findEntries bundle command = (s.findEntries "" "").filter fun e =>
      (bundle.isEmpty || e.bundle.name == bundle) && (command.isEmpty || e.command.name == command) := by
  rw [findEntries, currentOf_eq_filter hs, findEntries, List.filter_flatMap, flatMap_filter]
  refine List.flatMap_congr fun i _ => ?_
  have hfilter : (i.entriesNamed "").filter (fun e =>
      (bundle.isEmpty || e.bundle.name == bundle) && (command.isEmpty || e.command.name == command)) =
      (i.bundle.commands.values.filter fun c => (bundle.isEmpty || i.bundle.name == bundle) &&
        (command.isEmpty || c.name == command)).map i.entry := by
    rw [Installed.entriesNamed, List.filter_map, List.filter_filter]
    exact congrArg _ (List.filter_congr fun c _ => Bool.and_true _)
  rw [hfilter]
  cases bundle.isEmpty || i.bundle.name == bundle with
  | false => simp
  | true => simp [Installed.entriesNamed]

theorem mem_findEntries (hs : s.ShelvesSound) (hcommand : command ≠ "") : e ∈ s.findEntries bundle command ↔
    s.Offers e ∧ (bundle = "" ∨ e.bundle.name = bundle) ∧ e.command.name = command := by
  rw [findEntries_eq_filter hs, List.mem_filter, ← offers_iff hs]
  simp [hcommand]

theorem mem_findEntries_bare (hs : s.ShelvesSound) (hcommand : command ≠ "") :
    e ∈ s.findEntries "" command ↔ s.Offers e ∧ e.command.name = command := by
  rw [mem_findEntries hs hcommand, eq_self, true_or, true_and]

theorem findEntries_increasing (hr : s.Reachable) (hk : s.KeyedByName) (hcommand : command ≠ "") :
    (s.findEntries bundle command).Pairwise fun e f => e.bundle.name < f.bundle.name := by
  have hs := hr.shelvesSound
  have hkey : ∀ x ∈ s.listing, x.2.2.name = x.2.1 := fun x hx => by
    obtain ⟨v, i, hl⟩ := lists_of_mem_listing hs hx
    exact hl.keyedByName hk _ _ hl.key
  have hlisted : (s.findEntries "" "").Pairwise fun e f =>
      e.command.name = f.command.name → e.bundle.name < f.bundle.name := by
    rw [findEntries_eq, List.pairwise_map]
    refine (listing_sorted hs).imp_of_mem fun {x y} hx hy hlt hsame => ?_
    rcases hlt with hlt | ⟨-, hlt⟩
    · exact compareOfLessAndEq_eq_lt.1 hlt
    · rw [← hkey x hx, ← hkey y hy, hsame] at hlt
      exact absurd (compareOfLessAndEq_eq_lt.1 hlt) (lt_irrefl _)
  rw [findEntries_eq_filter hs]
  refine (hlisted.filter _).imp_of_mem fun {e f} he hf h => h ?_
  have hname : ∀ g ∈ (s.findEntries "" "").filter (fun e =>
      (bundle.isEmpty || e.bundle.name == bundle) && (command.isEmpty || e.command.name == command)),
      g.command.name = command := fun g hg => by
    rw [← findEntries_eq_filter hs] at hg
    exact ((mem_findEntries hs hcommand).1 hg).2.2
  rw [hname e he, hname f hf]

end Store

section Increasing

variable {α : Type} {key : α → String} {xs : List α} {x y : α}

theorem eq_singleton_of_increasing (h : xs.Pairwise fun a b => key a < key b) (hx : x ∈ xs)
    (hkey : ∀ z ∈ xs, key z = key x) : xs = [x] := by
  match xs with
  | [z] => rw [List.mem_singleton.1 hx]
  | z :: w :: rest =>
    have hlt := List.rel_of_pairwise_cons h (List.mem_cons_self ..)
    rw [hkey z (by simp), hkey w (by simp)] at hlt
    exact absurd hlt (lt_irrefl _)

theorem eq_cons_of_increasing (h : xs.Pairwise fun a b => key a < key b) (hx : x ∈ xs)
    (hleast : ∀ z ∈ xs, z = x ∨ key x < key z) : ∃ rest, xs = x :: rest := by
  match xs with
  | z :: rest =>
    rcases List.mem_cons.1 hx with rfl | hx
    · exact ⟨rest, rfl⟩
    · have hlt := List.rel_of_pairwise_cons h hx
      rcases hleast z (by simp) with rfl | hgt
      · exact absurd hlt (lt_irrefl _)
      · exact absurd (hlt.trans hgt) (lt_irrefl _)

theorem eq_cons_cons_of_increasing (h : xs.Pairwise fun a b => key a < key b) (hx : x ∈ xs) (hy : y ∈ xs)
    (hlt : key x < key y) (hrest : ∀ z ∈ xs, z = x ∨ z = y ∨ key y < key z) : ∃ rest, xs = x :: y :: rest := by
  have hleast : ∀ z ∈ xs, z = x ∨ key x < key z := fun z hz => by
    rcases hrest z hz with rfl | rfl | hgreater
    · exact .inl rfl
    · exact .inr hlt
    · exact .inr (hlt.trans hgreater)
  obtain ⟨tail, rfl⟩ := eq_cons_of_increasing h hx hleast
  obtain ⟨hfirst, htail⟩ := List.pairwise_cons.1 h
  have hytail : y ∈ tail := (List.mem_cons.1 hy).resolve_left fun he => absurd hlt (he ▸ lt_irrefl _)
  have hnext : ∀ z ∈ tail, z = y ∨ key y < key z := fun z hz => by
    rcases hrest z (List.mem_cons_of_mem _ hz) with rfl | hother
    · exact absurd (hfirst z hz) (lt_irrefl _)
    · exact hother
  obtain ⟨rest, rfl⟩ := eq_cons_of_increasing htail hytail hnext
  exact ⟨rest, rfl⟩

end Increasing

namespace Resolution

theorem nameParts?_append {b : String} (hcolon : ':' ∉ b.toList) (c : String) :
    nameParts? (b ++ ":" ++ c) = if b = "" ∨ c = "" then none else some (b, c) := by
  have hsplit : Text.splitFirst ':' (b ++ ":" ++ c).toList = some (b.toList, c.toList) := by
    rw [← Text.splitFirst_append hcolon]
    simp
  rw [nameParts?, hsplit]
  by_cases hb : b = ""
  · simp [hb]
  by_cases hc : c = ""
  · simp [hc]
  obtain ⟨x, xs, hx⟩ := List.exists_cons_of_ne_nil (mt String.toList_eq_nil_iff.1 hb)
  obtain ⟨y, ys, hy⟩ := List.exists_cons_of_ne_nil (mt String.toList_eq_nil_iff.1 hc)
  rw [hx, hy]
  dsimp only
  rw [← hx, ← hy, String.ofList_toList, String.ofList_toList, if_neg (by simp [hb, hc])]

theorem nameParts?_bare {name : String} (hcolon : ':' ∉ name.toList) :
    nameParts? name = if name = "" then none else some ("", name) := by
  rw [nameParts?, Text.splitFirst_eq_none hcolon]
  simp

theorem exists_parts {name : String} (h : ':' ∈ name.toList) :
    ∃ b c, ':' ∉ b.toList ∧ name = b ++ ":" ++ c := by
  obtain ⟨first, rest, hname, hfirst⟩ := List.eq_append_cons_of_mem h
  refine ⟨String.ofList first, String.ofList rest, by simpa using hfirst, String.toList_inj.1 ?_⟩
  simp [hname]

/-- What the words mean as a command line. -/
inductive Means (s : Store) : List String → Except ResolutionError Resolution → Prop
  | nothing : Means s [] (.error (.noSuchCommand ""))
  | qualified {name b c : String} {rest : List String} {e : Entry} (hname : name = b ++ ":" ++ c)
      (hcolon : ':' ∉ b.toList) (hb : b ≠ "") (hc : c ≠ "") (he : s.Offers e) (hbundle : e.bundle.name = b)
      (hcommand : e.command.name = c) : Means s (name :: rest) (.ok ⟨e, rest⟩)
  | missing {name b c : String} {rest : List String} (hname : name = b ++ ":" ++ c) (hcolon : ':' ∉ b.toList)
      (h : b = "" ∨ c = "" ∨ ∀ e, s.Offers e → e.bundle.name = b → e.command.name ≠ c) :
      Means s (name :: rest) (.error (.noSuchCommand name))
  | unknown {name : String} {rest : List String} (hcolon : ':' ∉ name.toList)
      (h : ∀ e, s.Offers e → e.command.name ≠ name) : Means s (name :: rest) (.error (.noSuchCommand name))
  | alone {name : String} {rest : List String} {e : Entry} (hcolon : ':' ∉ name.toList) (he : s.Offers e)
      (hcommand : e.command.name = name) (h : ∀ f, s.Offers f → f.command.name = name → f = e) :
      Means s (name :: rest) (.ok ⟨e, rest⟩)
  | ambiguous {name : String} {rest : List String} {e f : Entry} (hcolon : ':' ∉ name.toList) (he : s.Offers e)
      (hf : s.Offers f) (hefirst : e.command.name = name) (hfnext : f.command.name = name)
      (hlt : Text.bytes e.bundle.name < Text.bytes f.bundle.name)
      (h : ∀ g, s.Offers g → g.command.name = name →
        g = e ∨ g = f ∨ Text.bytes f.bundle.name < Text.bytes g.bundle.name) :
      Means s (name :: rest) (.error (.ambiguousCommand e.qualifiedName f.qualifiedName))

variable {s : Store} {text name : String} {rest : List String}

theorem on_ofCommand_eq (hwords : Text.words text = name :: rest) (s : Store) :
    (ofCommand text).on s = (match nameParts? name with
      | none => .error (.noSuchCommand name)
      | some (bundle, command) => (pick name (s.findEntries bundle command)).map (⟨·, rest⟩), s) := by
  rw [ofCommand, hwords, Resolving.on, Script.run_except_bind, ← Resolving.on]
  cases hparts : nameParts? name with
  | none =>
    have hrun : (ofWords (name :: rest)).on s = (.error (.noSuchCommand name), s) := by
      simp only [ofWords, hparts]
      rfl
    rw [hrun]
  | some parts =>
    obtain ⟨bundle, command⟩ := parts
    rw [on_ofWords hparts]
    dsimp only
    cases pick name (s.findEntries bundle command) <;> rfl

theorem on_bare (hwords : Text.words text = name :: rest) (hcolon : ':' ∉ name.toList) (hname : name ≠ "") :
    (ofCommand text).on s = ((pick name (s.findEntries "" name)).map (⟨·, rest⟩), s) := by
  rw [on_ofCommand_eq hwords, nameParts?_bare hcolon, if_neg hname]

theorem Means.resolved {other : Except ResolutionError Resolution} (hr : s.Reachable) (hk : s.KeyedByName)
    (h : Means s (Text.words text) other) : (ofCommand text).on s = (other, s) := by
  generalize hwords : Text.words text = words at h
  cases h with
  | nothing =>
    rw [ofCommand, hwords]
    rfl
  | @qualified name b c rest e hname hcolon hb hc he hbundle hcommand =>
    have hfound : s.findEntries b c = [e] := by
      refine eq_singleton_of_increasing (Store.findEntries_increasing hr hk hc)
        ((Store.mem_findEntries hr.shelvesSound hc).2 ⟨he, .inr hbundle, hcommand⟩) fun f hf => ?_
      obtain ⟨-, hfbundle, -⟩ := (Store.mem_findEntries hr.shelvesSound hc).1 hf
      rw [hbundle, hfbundle.resolve_left hb]
    rw [on_ofCommand_eq hwords, hname, nameParts?_append hcolon, if_neg (by simp [hb, hc])]
    dsimp only
    rw [hfound]
    rfl
  | @missing name b c rest hname hcolon h =>
    rw [on_ofCommand_eq hwords, hname, nameParts?_append hcolon]
    by_cases hparts : b = "" ∨ c = ""
    · rw [if_pos hparts]
    · obtain ⟨hb, hc⟩ := not_or.1 hparts
      have hfound : s.findEntries b c = [] := by
        refine List.eq_nil_iff_forall_not_mem.2 fun e he => ?_
        obtain ⟨he, hbundle, hcommand⟩ := (Store.mem_findEntries hr.shelvesSound hc).1 he
        exact (h.resolve_left hb).resolve_left hc e he (hbundle.resolve_left hb) hcommand
      rw [if_neg hparts]
      dsimp only
      rw [hfound]
      rfl
  | @unknown name rest hcolon h =>
    by_cases hname : name = ""
    · rw [on_ofCommand_eq hwords, nameParts?_bare hcolon, if_pos hname]
    · have hfound : s.findEntries "" name = [] := by
        refine List.eq_nil_iff_forall_not_mem.2 fun e he => ?_
        obtain ⟨he, hcommand⟩ := (Store.mem_findEntries_bare hr.shelvesSound hname).1 he
        exact h e he hcommand
      rw [on_bare hwords hcolon hname, hfound]
      rfl
  | @alone name rest e hcolon he hcommand h =>
    have hname : name ≠ "" := hcommand ▸ (he.names hr).2.2
    have hfound : s.findEntries "" name = [e] := by
      refine eq_singleton_of_increasing (Store.findEntries_increasing hr hk hname)
        ((Store.mem_findEntries_bare hr.shelvesSound hname).2 ⟨he, hcommand⟩) fun f hf => ?_
      obtain ⟨hf, hfcommand⟩ := (Store.mem_findEntries_bare hr.shelvesSound hname).1 hf
      rw [h f hf hfcommand]
    rw [on_bare hwords hcolon hname, hfound]
    rfl
  | @ambiguous name rest e f hcolon he hf hefirst hfnext hlt h =>
    have hname : name ≠ "" := hefirst ▸ (he.names hr).2.2
    have hmem (g : Entry) : g ∈ s.findEntries "" name ↔ s.Offers g ∧ g.command.name = name :=
      Store.mem_findEntries_bare hr.shelvesSound hname
    have hrest : ∀ g ∈ s.findEntries "" name, g = e ∨ g = f ∨ f.bundle.name < g.bundle.name := fun g hg => by
      obtain ⟨hg, hgname⟩ := (hmem g).1 hg
      rw [← Text.bytes_lt_iff]
      exact h g hg hgname
    obtain ⟨tail, htail⟩ := eq_cons_cons_of_increasing (Store.findEntries_increasing hr hk hname)
      ((hmem e).2 ⟨he, hefirst⟩) ((hmem f).2 ⟨hf, hfnext⟩) (Text.bytes_lt_iff.1 hlt) hrest
    rw [on_bare hwords hcolon hname, htail]
    rfl

theorem exists_means (hr : s.Reachable) (hk : s.KeyedByName) (words : List String) : ∃ other, Means s words other := by
  match words with
  | [] => exact ⟨_, .nothing⟩
  | name :: rest =>
    by_cases hcolon : ':' ∈ name.toList
    · obtain ⟨b, c, hb, hname⟩ := exists_parts hcolon
      by_cases h : b = "" ∨ c = "" ∨ ∀ e, s.Offers e → e.bundle.name = b → e.command.name ≠ c
      · exact ⟨_, .missing hname hb h⟩
      · push Not at h
        obtain ⟨hbne, hcne, e, he, hbundle, hcommand⟩ := h
        exact ⟨_, .qualified hname hb hbne hcne he hbundle hcommand⟩
    · by_cases hname : name = ""
      · exact ⟨_, .unknown hcolon fun e he => hname ▸ (he.names hr).2.2⟩
      · have hmem (g : Entry) : g ∈ s.findEntries "" name ↔ s.Offers g ∧ g.command.name = name :=
          Store.mem_findEntries_bare hr.shelvesSound hname
        have hincreasing : (s.findEntries "" name).Pairwise fun e f => e.bundle.name < f.bundle.name :=
          Store.findEntries_increasing hr hk hname
        match hfound : s.findEntries "" name with
        | [] =>
          rw [hfound] at hmem
          exact ⟨_, .unknown hcolon fun e he hcommand => List.not_mem_nil ((hmem e).2 ⟨he, hcommand⟩)⟩
        | [e] =>
          rw [hfound] at hmem
          obtain ⟨he, hcommand⟩ := (hmem e).1 (by simp)
          exact ⟨_, .alone hcolon he hcommand fun f hf hfname => List.mem_singleton.1 ((hmem f).2 ⟨hf, hfname⟩)⟩
        | e :: f :: tail =>
          rw [hfound] at hmem hincreasing
          obtain ⟨he, hefirst⟩ := (hmem e).1 (by simp)
          obtain ⟨hf, hfnext⟩ := (hmem f).1 (by simp)
          obtain ⟨hfirst, hnext⟩ := List.pairwise_cons.1 hincreasing
          have hlt := Text.bytes_lt_iff.2 (hfirst f (by simp))
          refine ⟨_, .ambiguous hcolon he hf hefirst hfnext hlt fun g hg hgname => ?_⟩
          have hgmem := (hmem g).2 ⟨hg, hgname⟩
          rw [List.mem_cons, List.mem_cons] at hgmem
          exact hgmem.imp_right (Or.imp_right fun h => Text.bytes_lt_iff.2 (List.rel_of_pairwise_cons hnext h))

theorem Means.of_ok {words : List String} {found : Resolution} (h : Means s words (.ok found)) :
    ∃ name, words = name :: found.parameters ∧ s.Offers found.entry ∧
      (found.entry.qualifiedName = name ∨ found.entry.command.name = name) := by
  cases h with
  | @qualified name b c rest e hname hcolon hb hc he hbundle hcommand =>
    refine ⟨name, rfl, he, .inl ?_⟩
    rw [Entry.qualifiedName, hbundle, hcommand, hname]
  | @alone name rest e hcolon he hcommand h => exact ⟨name, rfl, he, .inr hcommand⟩

theorem nameParts?_some {bundle command : String} (h : nameParts? name = some (bundle, command)) :
    command ≠ "" ∧ (bundle = "" → command = name) := by
  by_cases hcolon : ':' ∈ name.toList
  · obtain ⟨b, c, hb, rfl⟩ := exists_parts hcolon
    rw [nameParts?_append hb] at h
    split at h
    · cases h
    · cases h
      rename_i hparts
      exact ⟨fun hc => hparts (.inr hc), fun hb => absurd (.inl hb) hparts⟩
  · rw [nameParts?_bare hcolon] at h
    split at h
    · cases h
    · cases h
      exact ⟨‹_›, fun _ => rfl⟩

theorem asks_ofWords (words : List String) :
    Asks (fun c => ∃ bundle command, c = .findCommandEntry bundle command ∧ command ≠ "" ∧
      (bundle = "" → words.head? = some command)) (ofWords words).run := by
  unfold ofWords
  split
  · exact Script.asks_pure _
  · rename_i name rest
    split
    · exact Script.asks_pure _
    · rename_i bundle command hparts
      obtain ⟨hcommand, hbare⟩ := nameParts?_some hparts
      have hlookup : bundle = "" → (name :: rest).head? = some command := fun hb => by
        rw [List.head?_cons, hbare hb]
      refine Asks.except_bind (Call.asks_adapt ⟨bundle, command, rfl, hcommand, hlookup⟩) fun entries => ?_
      split <;> exact Script.asks_pure _

theorem not_leads_ofWords_nil {log : CallLog} {entry : Entry} :
    ¬ Leads (ofWords []).run log (.done (.ok entry)) := by
  intro h
  cases ((Script.leads_pure ..).1 h).2

/-- Every text has one meaning, and resolving the text answers it. A command that is found is offered, goes by the
first word and takes the others, so there is a first word to be dropped. The store is asked for a command by a name
that is not empty, and for one of any bundle only by the first word itself. -/
theorem resolving_finds_the_meaning (engine : Regex.Engine) (calls : List Call)
    (hcreated : ∀ b, .bundleCreate b ∈ successes calls (.new engine) → b.KeyedByName) (text : String) :
    let s := after calls (.new engine)
    let words := Text.words text
    ∃ answer, (ofCommand text).on s = (answer, s) ∧
      (∀ other, Means s words other ↔ other = answer) ∧
      (∀ found, answer = .ok found → ∃ name, words = name :: found.parameters ∧ s.Offers found.entry ∧
        (found.entry.qualifiedName = name ∨ found.entry.command.name = name)) ∧
      (∀ log entry, Leads (ofWords words).run log (.done (.ok entry)) → words ≠ []) ∧
      Asks (fun c => ∃ bundle command, c = .findCommandEntry bundle command ∧ command ≠ "" ∧
        (bundle = "" → words.head? = some command)) (ofCommand text).run := by
  intro s words
  have hr : s.Reachable := ⟨_, calls, rfl⟩
  have hk : s.KeyedByName := Store.keyedByName_of_created hcreated
  obtain ⟨answer, hanswer⟩ := exists_means hr hk words
  have hrun := hanswer.resolved hr hk
  refine ⟨answer, hrun, fun other => ⟨fun hother => ?_, ?_⟩, ?_, ?_, ?_⟩
  · exact congrArg Prod.fst ((hother.resolved hr hk).symm.trans hrun)
  · rintro rfl
    exact hanswer
  · rintro found rfl
    exact hanswer.of_ok
  · intro log entry h hnil
    rw [hnil] at h
    exact not_leads_ofWords_nil h
  · exact Asks.except_bind (asks_ofWords words) fun _ => Script.asks_pure _

def greeters (name : String) : Bundle :=
  { Bundle.named name "1" with
    enabled := true
    commands := .ofList [("greet", { Command.empty with name := "greet" })] }

theorem greeters_keyedByName (name : String) : (greeters name).KeyedByName := by
  intro k c h
  cases List.mem_singleton.1 h
  rfl

theorem two_greetings_are_ambiguous :
    let calls : List Call := [.bundleCreate (greeters "beta"), .bundleCreate (greeters "alpha")]
    (∀ b, .bundleCreate b ∈ successes calls (.new .standard) → b.KeyedByName) ∧
    ∀ other, Means (after calls (.new .standard)) ["greet", "now"] other ↔
      other = .error (.ambiguousCommand "alpha:greet" "beta:greet") := by
  intro calls
  have hcreated : ∀ b, .bundleCreate b ∈ successes calls (.new .standard) → b.KeyedByName := by
    intro b hb
    have hmem : b = greeters "beta" ∨ b = greeters "alpha" := by
      simpa [calls] using (Store.mem_successes hb).1
    rcases hmem with rfl | rfl <;> exact greeters_keyedByName _
  obtain ⟨answer, hrun, hmeans, -⟩ := resolving_finds_the_meaning .standard calls hcreated "greet now"
  have hwords : Text.words "greet now" = ["greet", "now"] := by decide +kernel
  have hanswer : ((ofCommand "greet now").on (after calls (.new .standard))).1 =
      .error (.ambiguousCommand "alpha:greet" "beta:greet") := by decide +kernel
  rw [hrun] at hanswer
  rw [hwords, show answer = _ from hanswer] at hmeans
  exact ⟨hcreated, hmeans⟩

end Resolution

end ChatRouter
