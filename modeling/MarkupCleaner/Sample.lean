import MarkupCleaner.Text.Quoted

/-!
# Samples

Named inputs for trying the pipeline out.
-/

namespace MarkupCleaner

/-- A named input. -/
structure Sample where
  id : String
  label : String
  html : String
deriving DecidableEq, Repr

namespace Sample

/-- An icon put together from boxes, inside a bar. -/
def icon : Sample where
  id := "figma-icon"
  label := "Figma icon block"
  html :=
    "<div className=\"self-stretch h-12 px-6 py-3 bg-neutral-900 border-b border-stone-500/20 "
    ++ "inline-flex justify-start items-center gap-1.5\">\n"
    ++ "  <div data-crypto=\"Default\" className=\"w-4 h-4 relative overflow-hidden\">\n"
    ++ "    <div className=\"w-4 h-4 left-0 top-0 absolute bg-amber-500\" />\n"
    ++ "    <div className=\"w-2 h-3 left-[4.59px] top-[3.38px] absolute bg-white\" />\n"
    ++ "  </div>\n"
    ++ "  <div className=\"flex-1 justify-start text-white text-sm font-normal font-['Manrope']\">"
    ++ "2.4066 BTC</div>\n"
    ++ "</div>"

/-- An empty box with a background image. -/
def background : Sample where
  id := "background-image"
  label := "Background image div"
  html :=
    "<div class=\"w-32 h-24 rounded-xl\" "
    ++ "style=\"background-image: url('https://placehold.co/200x150'); background-size: cover\">"
    ++ "</div>"

/-- A text inside wrappers that say nothing. -/
def wrappers : Sample where
  id := "wrappers"
  label := "Wrapper cleanup"
  html := "<div>\n  <div>\n    <span>   Hello   world   </span>\n  </div>\n</div>"

/-- All samples. -/
def all : List Sample := [icon, background, wrappers]

/-- The sample of a name. -/
def named? (id : String) : Option Sample := all.find? fun sample => sample.id = id

/-- The message about a name that no sample has. -/
def unknownMessage (id : String) : String :=
  "Unknown sample " ++ Text.quoted id ++ ", expected one of: "
    ++ ", ".intercalate (all.map Sample.id)

end Sample
end MarkupCleaner
