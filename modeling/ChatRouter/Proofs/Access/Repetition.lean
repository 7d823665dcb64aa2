import ChatRouter.Proofs.Access.Administration
import ChatRouter.Proofs.Access.Policy

set_option autoImplicit false

namespace ChatRouter

theorem User.isMapped_of_entries {u : User} {adapter id : String} (h : u.mappings.entries = [(adapter, id)]) :
    u.isMapped adapter id = true := by
  simp [isMapped, SortedMap.get?, h, Entries.get?]

namespace Provisioning

open Accessing

variable {s t : Store} {adapter : String} {who : Identity} {user : User} {hash : PasswordHash} {allow : Bool}

theorem on_known (hs : s.DirectorySound) (hunique : s.EmailsUnique) (h : who.KnownAs adapter s user) :
    (resolveOrCreate allow hash adapter who).on s = (.ok (user, false), s) := by
  obtain ⟨found, hfind, hknown⟩ := on_findExisting adapter who hs hunique
  rw [(hknown user).2 h] at hfind
  rw [resolveOrCreate_eq]
  exact on_bind_ok hfind

/-- Where nobody is known by the identity, nobody is mapped to it either: the first who is would be known. -/
theorem not_isMapped_of_unknown (hs : s.DirectorySound) (hnobody : ∀ u, ¬who.KnownAs adapter s u) :
    ∀ v ∈ s.users.values, v.isMapped adapter who.id = false := by
  have hnone : s.users.values.find? (·.isMapped adapter who.id) = none := by
    refine Option.eq_none_iff_forall_ne_some.2 fun u hu => ?_
    obtain ⟨hin, hmapped, hfirst⟩ := (hs.find?_users _).1 hu
    exact hnobody u (.byMapping hin hmapped (fun v hv he => hnobody v (.byEmail hv he)) hfirst)
  intro v hv
  simpa using List.find?_eq_none.1 hnone v hv

theorem Enrolls.knownAs (h : Enrolls s adapter who user t) (hs : s.DirectorySound)
    (hnobody : ∀ u, ¬who.KnownAs adapter s u) : who.KnownAs adapter t user := by
  obtain rfl := h.added
  have hin := s.putUser_mem_values user
  cases hemail : filled? who.email with
  | some email =>
    have hown : user.email = some email := h.email.trans hemail
    exact .byEmail hin ⟨email, hemail, User.hasEmail_own hown⟩
  | none =>
    have hunshared (v : User) : ¬who.SharesEmail v := by
      rintro ⟨email, he, -⟩
      rw [hemail] at he
      cases he
    refine .byMapping hin (User.isMapped_of_entries h.mapped) (fun v _ => hunshared v) fun v hv hmapped => ?_
    rcases Store.mem_values_putUser hv with rfl | hold
    · exact String.le_refl _
    · have hfree := not_isMapped_of_unknown hs hnobody v hold
      exact absurd (hmapped.symm.trans hfree) (by decide)

/-- Trying again for the same identity, at once: whoever the first attempt ended with is found, whether or not
registrations are allowed by now, and nothing changes any more; what was refused is refused for the same reason. -/
theorem attempts_are_stable (engine : Regex.Engine) (calls : List Call) (allow : Bool) (hash : PasswordHash)
    (adapter : String) (who : Identity) :
    let s := Store.after calls (.new engine)
    match (resolveOrCreate allow hash adapter who).on s with
    | (.ok (user, _), t) => ∀ again other,
        (resolveOrCreate again other adapter who).on t = (.ok (user, false), t)
    | (.error e, t) => t = s ∧ ∀ other, (resolveOrCreate allow other adapter who).on t = (.error e, t) := by
  intro s
  have hreachable : s.Reachable := ⟨_, calls, rfl⟩
  have hs := hreachable.directorySound
  have hunique := hreachable.emailsUnique
  obtain ⟨found, hfind, hknown⟩ := on_findExisting adapter who hs hunique
  cases found with
  | some user =>
    have hfirst : who.KnownAs adapter s user := (hknown user).1 rfl
    rw [on_known hs hunique hfirst]
    exact fun again other => on_known hs hunique hfirst
  | none =>
    have hnobody : ∀ u, ¬who.KnownAs adapter s u := by
      intro u hu
      cases (hknown u).2 hu
    have hunshared : ∀ v ∈ s.users.values, ¬who.SharesEmail v := fun v hv he => hnobody v (.byEmail hv he)
    -- The reason for a refusal depends on the name of the account, which is the same whatever its hash.
    have houtcome (other : PasswordHash) := @on_unknown s adapter who other allow hs hfind hunshared
    have hname (other : PasswordHash) : (newUser adapter who other).username = (newUser adapter who hash).username :=
      rfl
    simp only [hname] at houtcome
    cases hrefusal : refusal? allow s (newUser adapter who hash).username with
    | some e =>
      simp only [hrefusal] at houtcome
      rw [houtcome hash]
      exact ⟨rfl, houtcome⟩
    | none =>
      simp only [hrefusal] at houtcome
      obtain ⟨user, t, henrolls, hrun⟩ := houtcome hash
      have hreached : t.Reachable := by
        have hafter := Store.Reachable.run hreachable (resolveOrCreate allow hash adapter who).run
        change ((resolveOrCreate allow hash adapter who).on s).2.Reachable at hafter
        rwa [hrun] at hafter
      rw [hrun]
      exact fun again other => on_known hreached.directorySound hreached.emailsUnique (henrolls.knownAs hs hnobody)

end Provisioning

end ChatRouter
