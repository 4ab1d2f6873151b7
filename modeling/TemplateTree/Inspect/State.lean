import TemplateTree.Context
import TemplateTree.Engine
import TemplateTree.Error.Snippet
import TemplateTree.Inspect.Nodes

/-!
# Listings of engines, contexts and errors
-/

namespace TemplateTree

variable {η : Type}

/-- An error as a listing, or as its snippet if it has a place in a source. -/
def Error.inspect [TextWidth] (e : Error) : String :=
  e.snippet?.getD (Listing.record "Error" [("kind", .word e.kind.name), ("msg", .quoted e.message),
    ("template", .ofOption (e.template.map .quoted))] false).text

def Engine.listing (engine : Engine η) : Listing :=
  .record "Engine" [("templates", .sequence (engine.templates.keys.map .quoted)),
    ("max_include_depth", .ofNat engine.maxIncludeDepth)] true

def Template.listing (t : Template η) : Listing :=
  .record "TemplateRef" [("name", .quoted t.name)] true

/-- Block definitions, the least derived one of a queue first. -/
def Blocks.listing (bs : Blocks η) : Listing :=
  .record "BlockContext" [("blocks", .ofDict (bs.map fun e =>
    (e.1, .sequence (e.2.reverse.map Block.listing))))] false

def RenderFrame.listing (f : RenderFrame η) : Listing :=
  .record "RenderFrame" [("blocks", .ofOption (f.blocks.map Blocks.listing)),
    ("cycles", .dictionary (f.cycles.map fun c => (.ofNat c.1, .ofNat c.2)))] false

def frameListing (frame : Dict (Val η)) : Listing :=
  .ofDict (Value.entryListings frame)

/-- A context; stacks are shown from the bottom up. -/
def Context.listing (ctx : Context η) : Listing :=
  .record "Context" [("globals", frameListing ctx.globals),
    ("stack", .sequence (ctx.stack.reverse.map frameListing)),
    ("render", .record "RenderContext" [("top", ctx.render.listing),
      ("saved", .sequence (ctx.saved.reverse.map RenderFrame.listing))] false)] true

end TemplateTree
