import ApiSurface.Settings.Basic

/-!
# Rendered files

A rendered file is a name in the output directory and the text that goes there.
-/

namespace ApiSurface.Output

structure RenderedFile where
  name : String
  contents : String
  deriving DecidableEq, Repr

end ApiSurface.Output
