import MarkupCleaner.ClassRules.Engine
import MarkupCleaner.Live.Basic

/-!
# Class rules in place

The class rules on live documents. Elements are edited on the way down, each before the ones below it.
When a search finds a broken group the walk stops there, and what has been edited before stays edited.
-/

namespace MarkupCleaner.Live

mutual

/-- Edits a subtree, and tells why the walk has stopped if it has. -/
def classStep (engine : ClassRules.Engine) : LiveNode → LiveNode × Option Pattern.BrokenGroup
  | .element link tag attrs children ns =>
    match engine.applyToAttributes attrs with
    | .error fault => (.element link tag attrs children ns, some fault)
    | .ok attrs =>
      let (children, stopped) := classWalk engine children
      (.element link tag attrs children ns, stopped)
  | .text link value => (.text link value, none)
  | .comment link data => (.comment link data, none)

/-- Edits several subtrees, from the first to the last. -/
def classWalk (engine : ClassRules.Engine) :
    List LiveNode → List LiveNode × Option Pattern.BrokenGroup
  | [] => ([], none)
  | n :: ns =>
    let (n, stopped) := classStep engine n
    if stopped.isSome then (n :: ns, stopped)
    else
      let (ns, stopped) := classWalk engine ns
      (n :: ns, stopped)

end

end MarkupCleaner.Live
