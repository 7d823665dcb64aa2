import ChatRouter.Proofs.Access.Effective
import ChatRouter.Proofs.Text.Bytes

set_option autoImplicit false

namespace ChatRouter

open Authorization

/-- The values of the set are the grants that satisfy `P`, in the order of the bytes of their texts. -/
structure GrantSet.Enumerates (set : GrantSet) (P : Grant → Prop) : Prop where
  increasing : set.values.Pairwise fun g h => Text.bytes g.text < Text.bytes h.text
  mem_iff : ∀ g, g ∈ set.values ↔ P g

theorem GrantSet.Keyed.increasing {set : GrantSet} (hs : set.Keyed) :
    set.values.Pairwise fun g h => Text.bytes g.text < Text.bytes h.text := by
  have htext : ∀ e ∈ set.entries, e.2.text = e.1 := fun e he =>
    (hs e.1 e.2 ((SortedMap.mem_entries_iff _ _ _).1 he)).1
  rw [SortedMap.values, List.pairwise_map]
  refine set.sorted.imp_of_mem fun ha hb hlt => ?_
  rw [htext _ ha, htext _ hb]
  exact Text.bytes_lt_iff.2 (compareOfLessAndEq_eq_lt.1 hlt)

theorem GrantSet.Keyed.enumerates {set : GrantSet} (hs : set.Keyed) {P : Grant → Prop}
    (h : ∀ g, SortedMap.get? set g.text = some g ↔ P g) : set.Enumerates P :=
  ⟨hs.increasing, fun g => (hs.mem_values_iff g).trans (h g)⟩

/-- In every reachable store the permissions of a user are listed in full: the grants of every role of every
group of the user, each once, in order. They are refused exactly for a user who is not there, and likewise those
of a group. -/
theorem permissions_are_unions (engine : Regex.Engine) (calls : List Call) :
    let s := Store.after calls (.new engine)
    (∀ u, if s.userExists u then
        ∃ set, (userGrants u).on s = (.ok set, s) ∧ set.Enumerates fun g => ∃ group role,
          (Edge.member group u).Listed s ∧ (Edge.role group role).Listed s ∧
            (Edge.grant role g.bundle g.permission).Listed s
      else (userGrants u).on s = (.error (.store (if u = "" then .emptyUserName else .noSuchUser u)), s)) ∧
    ∀ group, if s.groupExists group then
        ∃ set, (groupGrants group).on s = (.ok set, s) ∧ set.Enumerates fun g => ∃ role,
          (Edge.role group role).Listed s ∧ (Edge.grant role g.bundle g.permission).Listed s
      else (groupGrants group).on s =
        (.error (.store (if group = "" then .emptyGroupName else .noSuchGroup group)), s) := by
  intro s
  have hr : s.Reachable := ⟨_, calls, rfl⟩
  have hs := hr.directorySound
  simp only [Edge.listed_iff_isIn hs]
  constructor
  · intro u
    split
    · rename_i hu
      obtain ⟨set, hset, hkeyed, hiff⟩ := on_userGrants hs hu
      exact ⟨set, hset, hkeyed.enumerates hiff⟩
    · rename_i hu
      exact on_userGrants_missing (Bool.eq_false_iff.2 hu)
  · intro group
    split
    · rename_i hgroup
      obtain ⟨set, hset, hkeyed, hiff⟩ := on_groupGrants hs hgroup
      exact ⟨set, hset, hkeyed.enumerates hiff⟩
    · rename_i hgroup
      exact on_groupGrants_missing (Bool.eq_false_iff.2 hgroup)

end ChatRouter
