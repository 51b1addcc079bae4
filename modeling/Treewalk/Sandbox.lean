import Treewalk.Session

/-!
Sandboxes: a tree with a policy of its own, run in one session after another.
-/

set_option autoImplicit false
set_option relaxedAutoImplicit false

namespace Treewalk

/-- The tree that a parser's result stands for: raw data that spells a node, or nothing at all. -/
def Tree.ofParsed (raw : Raw) : Except Cause Tree :=
  match raw with
  | .null => .ok (.leaf .null)
  | _ => do
    match ← Tree.ofRaw raw with
    | .leaf _ => throw (.notParsed raw)
    | tree => return tree

/-- A sandbox. Its tree is one thing in all of its sessions. -/
structure Sandbox where
  site : Site
  policy : Option Policy := none
deriving Inhabited

/-- Runs the tree of a sandbox as the session that is given; the session's own policy comes first. -/
def Sandbox.run (library : Library) (sandbox : Sandbox) (given : Given) : Run Value :=
  Given.run library { given with policy := given.policy.orElse fun _ => sandbox.policy }
    sandbox.site

end Treewalk
