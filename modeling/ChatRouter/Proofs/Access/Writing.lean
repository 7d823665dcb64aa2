import ChatRouter.Proofs.Access.Effective
import ChatRouter.Proofs.Access.Keywords
import ChatRouter.Regex.Parser

set_option autoImplicit false

namespace ChatRouter

theorem Text.trim_cons {c : Char} (h : isBlank c = false) (rest : List Char) :
    trim (c :: rest) = c :: trimRight rest := by
  have hleft : trimLeft (c :: rest) = c :: rest := List.dropWhile_cons_of_neg (by simp [h])
  rw [trim, hleft, trimRight, trimRight, List.reverse_cons, List.dropWhile_append]
  split
  · simp_all
  · simp

namespace Rules

/-- The rule written for one permission. -/
def demanding (bundle permission : String) : String := "must have " ++ bundle ++ ":" ++ permission

/-- Both parts are made of the characters of tokens in rules. -/
structure Writable (g : Grant) : Prop where
  bundle : ∀ c ∈ g.bundle.toList, isBundleChar c = true
  permission : ∀ c ∈ g.permission.toList, isPermissionChar c = true

theorem eq_space_of_toLower {c : Char} (h : c.toLower = ' ') : c = ' ' := by
  unfold Char.toLower at h
  split at h
  · rename_i hupper
    have hval : c.val + 32 = 32 := congrArg Char.val h
    have hlow : 65 ≤ c.val := hupper.1
    grind
  · exact h

theorem afterFirstKeyword_eq_none {s : List Char} (h : ' ' ∉ s) : afterFirstKeyword s = none := by
  fun_induction afterFirstKeyword s with
  | case1 => rfl
  | case2 c rest hk =>
    have hspace : ' ' ∈ ((c :: rest).take keyword.length).map Char.toLower := by
      rw [hk]
      decide
    obtain ⟨d, hd, he⟩ := List.mem_map.1 hspace
    exact absurd (eq_space_of_toLower he ▸ List.mem_of_mem_take hd) h
  | case3 c rest hk ih => exact ih fun hr => h (List.mem_cons_of_mem c hr)

theorem afterFirstKeyword_keyword {s : List Char} (hk : (s.take keyword.length).map Char.toLower = keyword) :
    afterFirstKeyword s = some (s.drop keyword.length) := by
  cases s with
  | nil => exact absurd hk (by decide)
  | cons c rest => rw [afterFirstKeyword, if_pos hk]

theorem afterFirstKeyword_append (rest : List Char) : afterFirstKeyword (keyword ++ rest) = some rest := by
  rw [afterFirstKeyword_keyword, List.drop_left]
  rw [List.take_left]
  decide

theorem scan_append {b : List Char} (hb : ∀ c ∈ b, isBundleChar c = true) (bundle rest : List Char) :
    scan bundle (b ++ rest) = scan (b.reverse ++ bundle) rest := by
  induction b generalizing bundle with
  | nil => rfl
  | cons c b ih =>
    obtain ⟨hc, hb⟩ := List.forall_mem_cons.1 hb
    rw [List.cons_append, scan, if_pos hc, ih hb, List.reverse_cons, List.append_assoc]
    rfl

theorem scan_colon {bundle p : List Char} (hne : bundle ≠ []) (hp : p ≠ [])
    (hchars : ∀ c ∈ p, isPermissionChar c = true) :
    scan bundle (':' :: p) = [⟨String.ofList bundle.reverse, String.ofList p⟩] := by
  have htake : p.takeWhile isPermissionChar = p := List.takeWhile_eq_self_iff.2 hchars
  have hdrop : p.dropWhile isPermissionChar = [] := List.dropWhile_eq_nil_iff.2 hchars
  have hhead : p.head?.any isPermissionChar = true := by
    cases p with
    | nil => exact absurd rfl hp
    | cons c p => exact hchars c (List.mem_cons_self ..)
  have hbundle : bundle.isEmpty = false := by
    cases bundle with
    | nil => exact absurd rfl hne
    | cons c bundle => rfl
  rw [scan, if_neg (by decide), if_pos (by simp [hbundle, hhead]), htake, hdrop, scan]

theorem scan_token {b p : List Char} (hb : b ≠ []) (hbundle : ∀ c ∈ b, isBundleChar c = true) (hp : p ≠ [])
    (hpermission : ∀ c ∈ p, isPermissionChar c = true) :
    scan [] (' ' :: (b ++ ':' :: p)) = [⟨String.ofList b, String.ofList p⟩] := by
  rw [scan, if_neg (by decide), if_neg (by simp), scan_append hbundle, List.append_nil,
    scan_colon (by simpa using hb) hp hpermission, List.reverse_reverse]

theorem toList_demanding (bundle permission : String) : (demanding bundle permission).toList =
    keyword ++ ' ' :: (bundle.toList ++ ':' :: permission.toList) := by
  have hstart : "must have ".toList = keyword ++ [' '] := by decide
  have hcolon : ":".toList = [':'] := rfl
  simp only [demanding, String.toList_append, hstart, hcolon, List.append_assoc, List.cons_append,
    List.nil_append]

theorem requirement_demanding {b p : String} (hb : ' ' ∉ b.toList) (hp : ' ' ∉ p.toList) :
    requirement (demanding b p).toList = ' ' :: (b.toList ++ ':' :: p.toList) := by
  have hchars : ' ' ∉ b.toList ++ ':' :: p.toList := by simp [hb, hp]
  have hrest : afterFirstKeyword (' ' :: (b.toList ++ ':' :: p.toList)) = none := by
    rw [afterFirstKeyword, if_neg, afterFirstKeyword_eq_none hchars]
    exact fun h => absurd (List.cons.inj h).1 (by decide)
  rw [requirement, toList_demanding, afterLastKeyword_eq, afterFirstKeyword_append, Option.bind_some,
    (afterLastKeyword_eq_none_iff _).2 hrest]
  rfl

theorem required_demanding_iff {b p : String} (hb : b ≠ "") (hp : p ≠ "") :
    requiredPermissions (demanding b p) = [⟨b, p⟩] ↔ Writable ⟨b, p⟩ := by
  constructor
  · intro h
    have hmem : (⟨b, p⟩ : Grant) ∈ requiredPermissions (demanding b p) := h ▸ List.mem_singleton_self _
    exact ⟨bundle_of_mem_scan (by simp) hmem, permission_of_mem_scan hmem⟩
  · rintro ⟨hbundle, hpermission⟩
    have hspace (h : ' ' ∈ b.toList) : False := absurd (hbundle ' ' h) (by decide)
    have hspace' (h : ' ' ∈ p.toList) : False := absurd (hpermission ' ' h) (by decide)
    rw [requiredPermissions, requirement_demanding hspace hspace',
      scan_token (by simpa using hb) hbundle (by simpa using hp) hpermission, String.ofList_toList,
      String.ofList_toList]

theorem isUnconditional_demanding (b p : String) : isUnconditional (demanding b p) = false := by
  have hletter : keyword = 'm' :: keyword.tail := by decide
  have htrim : (Text.trimmed (demanding b p)).toList = 'm' ::
      Text.trimRight (keyword.tail ++ ' ' :: (b.toList ++ ':' :: p.toList)) := by
    rw [Text.trimmed, String.toList_ofList, toList_demanding, hletter, List.cons_append,
      Text.trim_cons (by decide)]
    rfl
  -- Neither of the two words begins with an `m`.
  have hother {word : String} (hw : (word.toList.map Char.toLower).head? ≠ some 'm') :
      Text.sameLetters (Text.trimmed (demanding b p)) word = false := by
    refine beq_eq_false_iff_ne.2 fun h => hw ?_
    rw [← h, htrim]
    rfl
  rw [isUnconditional, hother (by decide), hother (by decide), Bool.or_self]

theorem passes_demanding {b p : String} (h : requiredPermissions (demanding b p) = [⟨b, p⟩])
    (granted : Grant → Prop) : Passes granted (demanding b p) ↔ granted ⟨b, p⟩ := by
  simp [Passes, isUnconditional_demanding, h]

end Rules

open Rules in
/-- The rule that is written for a grant which a role may hold demands that grant exactly when tokens have all
its characters. Then it lets pass whoever has the grant and nobody else. -/
theorem rules_name_writable_grants {s t : Store} (hs : s.Reachable) {role b p : String}
    (h : (Store.perform (.rolePermissionAdd role b p) t).1 = .ok ()) :
    (requiredPermissions (demanding b p) = [⟨b, p⟩] ↔ Writable ⟨b, p⟩) ∧
      (Writable ⟨b, p⟩ → ∀ (username : String) (entry : Entry), entry.command.rules = [demanding b p] →
        (((Authorization.authorize username entry).on s).1 = .ok () ↔ s.HasGrant username ⟨b, p⟩)) := by
  obtain ⟨⟨hb, -, hp⟩, -, -⟩ := Store.addGrant_ok.1 (Prod.ext h rfl)
  have hrequired := required_demanding_iff hb hp
  refine ⟨hrequired, fun hw username entry hrules => ?_⟩
  rw [Authorization.authorize_iff_permits hs.directorySound, hrules, Store.Permits, List.forall_mem_singleton,
    passes_demanding (hrequired.2 hw)]
  exact and_iff_right (List.cons_ne_nil _ _)

def deployStore : Store := Store.after
  [.userCreate (.named "ann"), .groupCreate "ops", .groupUserAdd "ops" "ann", .roleCreate "deployer",
    .groupRoleAdd "ops" "deployer", .rolePermissionAdd "deployer" "ci" "deploy"] (.new .standard)

def ruledEntry (rule : String) : Entry := ⟨.named "ci" "1.0.0", { Command.empty with rules := [rule] }⟩

theorem deploy_is_named : deployStore.Reachable ∧
    (Store.perform (.rolePermissionAdd "deployer" "ci" "deploy") deployStore).1 = .ok () ∧
    Rules.requiredPermissions "must have ci:deploy" = [⟨"ci", "deploy"⟩] ∧
    deployStore.HasGrant "ann" ⟨"ci", "deploy"⟩ := by
  have hs : deployStore.Reachable := ⟨_, _, rfl⟩
  have hadd : (Store.perform (.rolePermissionAdd "deployer" "ci" "deploy") deployStore).1 = .ok () := by
    decide +kernel
  have hw : Rules.Writable ⟨"ci", "deploy"⟩ := ⟨List.all_eq_true.1 (by decide), List.all_eq_true.1 (by decide)⟩
  obtain ⟨hrequired, hauthorize⟩ := rules_name_writable_grants hs hadd
  refine ⟨hs, hadd, hrequired.2 hw, (hauthorize hw "ann" (ruledEntry _) rfl).1 ?_⟩
  decide +kernel

/-- A permission with a colon is cut short in a rule, so who has the shorter one passes. -/
theorem colon_cuts_permission : ¬ ∀ (s : Store) (role b p username : String) (entry : Entry), s.Reachable →
    (Store.perform (.rolePermissionAdd role b p) s).1 = .ok () →
      entry.command.rules = [Rules.demanding b p] →
        (((Authorization.authorize username entry).on s).1 = .ok () ↔ s.HasGrant username ⟨b, p⟩) := by
  intro h
  have hs : deployStore.Reachable := ⟨_, _, rfl⟩
  have hgrant := (h deployStore "deployer" "ci" "deploy:prod" "ann" (ruledEntry _) hs (by decide +kernel) rfl).1
    (by decide +kernel)
  have hhas := (Authorization.userHasPermission_iff hs.directorySound (by decide +kernel) (by decide)).2 hgrant
  exact absurd hhas (by decide +kernel)

end ChatRouter
