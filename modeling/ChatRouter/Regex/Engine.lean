set_option autoImplicit false

namespace ChatRouter.Regex

/-- How patterns are read: which texts are patterns, and which texts they find. -/
structure Engine where
  compiles (pattern : String) : Bool
  isMatch (pattern text : String) : Bool

end ChatRouter.Regex
