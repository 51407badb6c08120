import ImportResolver.Resolution.Resolve
import ImportResolver.Source.Site
/- Resolving all specifiers of a source text. -/
namespace ImportResolver

structure ResolvedSite where
  site : Source.Site
  resolution : Resolution
  deriving DecidableEq

structure ResolvedSource where
  code : String
  sites : List ResolvedSite
  deriving DecidableEq

namespace ResolvedSource

def changed (r : ResolvedSource) : Nat := r.sites.countP (·.resolution.isChanged)

def isChanged (r : ResolvedSource) : Bool := 0 < r.changed

end ResolvedSource

/-- A source text written anew as far as some site. -/
structure Draft where
  code : String := ""
  /-- The last site first. -/
  sites : List ResolvedSite := []
  /-- Where the text begins that is still to be copied. -/
  copied : Nat := 0

namespace Draft

/-- A site that keeps its specifier is left to the next copy. -/
def add (source : String) (draft : Draft) (s : ResolvedSite) : Draft :=
  if s.resolution.isChanged then
    { code := draft.code ++ Source.slice source draft.copied s.site.start ++ s.resolution.specifier
      sites := s :: draft.sites
      copied := s.site.stop }
  else { draft with sites := s :: draft.sites }

def finish (source : String) (draft : Draft) : ResolvedSource :=
  ⟨draft.code ++ Source.slice source draft.copied source.utf8ByteSize, draft.sites.reverse⟩

end Draft

namespace Context

def resolveSite (ctx : Context) (fs : FileSystem) (site : Source.Site) :
    Except Failure ResolvedSite :=
  (ctx.resolve fs site.raw).map fun resolution => ⟨site, resolution⟩

/-- Puts the resolved specifiers in place of the written ones. The first failure is the answer. -/
def resolveSource (ctx : Context) (fs : FileSystem) (source : String) :
    Except Failure ResolvedSource := do
  let draft ← (Source.sites source).foldlM
    (fun (draft : Draft) site => return draft.add source (← ctx.resolveSite fs site)) {}
  return draft.finish source

end Context
end ImportResolver
