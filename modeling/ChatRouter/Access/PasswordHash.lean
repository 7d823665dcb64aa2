set_option autoImplicit false

namespace ChatRouter

structure PasswordHash where
  lead : String
  tag : Thunk String

namespace PasswordHash

def ofText (text : String) : PasswordHash := ⟨text, Thunk.pure ""⟩

def text (h : PasswordHash) : String := h.lead ++ h.tag.get

instance : DecidableEq PasswordHash := fun a b =>
  if h : a.lead = b.lead ∧ a.tag.get = b.tag.get then
    isTrue (by cases a; cases b; simp_all [Thunk.ext_iff])
  else
    isFalse fun e => h (e ▸ ⟨rfl, rfl⟩)

@[simp] theorem text_ofText (s : String) : (ofText s).text = s := by
  simp [ofText, text, Thunk.get, Thunk.pure]

end PasswordHash

end ChatRouter
