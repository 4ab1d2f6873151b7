import TemplateTree.Host.Identifier
import TemplateTree.Host.Width
import TemplateTree.Render.Run

/-!
# Host procedures

A ready set of procedures for hosts that want functions and callbacks without code of their own: constants,
the value a function was read from and its properties, lookups and writes in the context, frames, and
rendering. With them come tables of identifier characters and of widths.
-/

namespace TemplateTree

inductive Procedure where
  | constant (v : Value (Callable Procedure))
  /-- Returns the value that the function was read from. -/
  | receiver
  | property (name : String)
  | lookup (name : String)
  | isBound (name : String)
  | hasBlocks
  /-- Counts a variable up, from 1 if it is no integer. -/
  | count (name : String)
  | assign (name : String) (v : Value (Callable Procedure))
  | push (frame : List (String × Value (Callable Procedure)))
  | pop
  | enterTemplate
  | leaveTemplate
  | resolve (v : Variable)
  | render (nodes : List (Node Procedure))
  | fail (message : String)

namespace Procedure

open RenderM

def successor : Option (Val Procedure) → Int64
  | some (.integer i) => i + 1
  | _ => 1

def run (render : Renderer Procedure) (p : Procedure) (receiver : Val Procedure) :
    RenderM Procedure (Val Procedure) := do
  match p with
  | .constant v => return v
  | .receiver => return receiver
  | .property name => return (receiver.property? name).getD .none
  | .lookup name => return ((← get).get? name).getD .none
  | .isBound name => return .bool ((← get).has name)
  | .hasBlocks => return .bool (← get).render.blocks.isSome
  | .count name =>
    let n := Value.integer (successor ((← get).get? name))
    bindVar name n
    return n
  | .assign name v =>
    bindVar name v
    return .none
  | .push frame =>
    pushFrame frame
    return .none
  | .pop => return .map (← popFrame)
  | .enterTemplate =>
    update (·.enter)
    return .none
  | .leaveTemplate =>
    RenderM.leaveTemplate
    return .none
  | .resolve v => render (.var v)
  | .render nodes => return .list (← renderAll render nodes)
  | .fail message => RenderM.fail (.render (.reported message))

end Procedure

instance : HostCode Procedure := ⟨Procedure.run⟩

end TemplateTree
