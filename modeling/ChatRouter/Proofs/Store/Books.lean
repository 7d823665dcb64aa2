import ChatRouter.Proofs.Store.Ledger

set_option autoImplicit false

namespace ChatRouter.Store

def settled (r : Request) : Record := ⟨r, some 0, none, true⟩

/-- Since `s`, the requests of `begun` have been begun, in this order, and those of `closed` have succeeded. -/
structure Books (s t : Store) (begun closed : List Request) : Prop where
  reachable : t.Reachable
  recorded : ∀ r ∈ begun, t.Records r
  closed : ∀ r ∈ closed, t.requests.get? r.id = some (settled r)
  others : ∀ id record, t.requests.get? id = some record →
    s.requests.get? id = some record ∨ ∃ r ∈ begun, r.id = id
  numbered : (begun.map (·.id)).Pairwise (· < ·)

variable {s t u : Store} {begun closed : List Request}

theorem books_refl (h : s.Reachable) : Books s s [] [] := ⟨h, nofun, nofun, fun _ _ => .inl, .nil⟩

theorem Books.idle (h : Books s t begun closed) {c : Call} (hc : c.part? ≠ some .ledger) :
    Books s (perform c t).2 begun closed := by
  have hsame := (perform_ledger hc t).1
  refine ⟨h.reachable.perform c, fun r hr => ?_, ?_, ?_, h.numbered⟩
  · exact (h.recorded r hr).perform h.reachable.ledgerSound c
  · rw [hsame]
    exact h.closed
  · rw [hsame]
    exact h.others

theorem Books.begins (h : Books s t begun closed) {x r : Request}
    (hb : perform (.requestBegin x) t = (.ok r, u)) : Books s u (begun ++ [r]) closed := by
  have hsound := h.reachable.ledgerSound
  have hreach := h.reachable.perform (.requestBegin x)
  rw [hb] at hreach
  have hold (q : Request) (hq : q ∈ begun) : u.Records q := (h.recorded q hq).step hsound hb
  obtain ⟨-, rfl, rfl⟩ := beginRequest_ok.1 hb
  refine ⟨hreach, fun q hq => ?_, fun q hq => ?_, fun id record hid => ?_, ?_⟩
  · rcases List.mem_append.1 hq with hq | hq
    · exact hold q hq
    · rw [List.mem_singleton] at hq
      subst q
      exact ⟨_, by rw [SortedMap.get?_insert_ite, if_pos rfl], rfl⟩
  -- The new number is above all that are on record.
  · have hle := (hsound.recorded _ _ (h.closed q hq)).2.1
    rw [SortedMap.get?_insert_ite, if_neg (by omega)]
    exact h.closed q hq
  · rw [SortedMap.get?_insert_ite] at hid
    split at hid
    · exact .inr ⟨_, List.mem_append_right _ (List.mem_singleton_self _), Eq.symm ‹_›⟩
    · refine (h.others id record hid).imp_right ?_
      rintro ⟨q, hq, hqid⟩
      exact ⟨q, List.mem_append_left _ hq, hqid⟩
  · rw [List.map_append, List.pairwise_append]
    refine ⟨h.numbered, List.pairwise_singleton _ _, fun i hi j hj => ?_⟩
    obtain ⟨q, hq, rfl⟩ := List.mem_map.1 hi
    rw [List.map_singleton, List.mem_singleton] at hj
    subst j
    have hle := (h.recorded q hq).number_le hsound
    change q.id < t.lastRequest + 1
    omega

theorem Books.closes (h : Books s t begun closed) {r : Request} (hr : r ∈ begun) :
    Books s (perform (.requestClose r.id 0 none) t).2 begun (closed ++ [r]) := by
  obtain ⟨record, hrecord, hrequest⟩ := h.recorded r hr
  have hclose : (closeRequest r.id 0 none).run t = (.ok (), _) := closeRequest_ok.2 ⟨record, hrecord, rfl⟩
  have hsettled : ({ record with status := some 0, error := none, closed := true } : Record) = settled r := by
    rw [← hrequest]
    rfl
  have hkept (q : Request) (hq : q ∈ begun) := (h.recorded q hq).perform h.reachable.ledgerSound
    (.requestClose r.id 0 none)
  have hreach := h.reachable.perform (.requestClose r.id 0 none)
  have hperform : (perform (.requestClose r.id 0 none) t).2 = _ := congrArg Prod.snd hclose
  rw [hsettled] at hperform
  rw [hperform] at hkept hreach ⊢
  refine ⟨hreach, hkept, fun q hq => ?_, fun id other hid => ?_, h.numbered⟩
  · rw [SortedMap.get?_insert_ite]
    split
    · rename_i hid
      -- One number is on record for one request only.
      obtain ⟨known, hknown, hq'⟩ : t.Records q := by
        rcases List.mem_append.1 hq with hq | hq
        · exact ⟨_, h.closed q hq, rfl⟩
        · rw [List.mem_singleton] at hq
          exact ⟨record, hq ▸ hrecord, hq ▸ hrequest⟩
      rw [hid, hrecord] at hknown
      cases hknown
      rw [← hq', hrequest]
    · rename_i hne
      rcases List.mem_append.1 hq with hq | hq
      · exact h.closed q hq
      · rw [List.mem_singleton] at hq
        exact absurd (congrArg Request.id hq) hne
  · rw [SortedMap.get?_insert_ite] at hid
    split at hid
    · exact .inr ⟨r, hr, Eq.symm ‹_›⟩
    · exact h.others id other hid

end ChatRouter.Store
