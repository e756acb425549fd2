import GotechDesk.Segments

set_option autoImplicit false

namespace GotechDesk.FileTransfer

open Segments

-- A path as the text it is made of, and the rules of std::path for it. Both families of
-- targets are covered: `/` alone, or `\` and `/` with drive and UNC prefixes.
inductive Style where
  | unix
  | windows
deriving DecidableEq, Repr

abbrev Name := List Char

def Style.isSep (style : Style) (c : Char) : Bool := c == '/' || (style == .windows && c == '\\')

def Style.mainSep : Style → Char
  | .unix => '/'
  | .windows => '\\'

inductive PrefixKind where
  | verbatim
  | verbatimUnc
  | verbatimDisk
  | deviceNs
  | unc
  | disk
deriving DecidableEq, Repr

def PrefixKind.isVerbatim : PrefixKind → Bool
  | .verbatim | .verbatimUnc | .verbatimDisk => true
  | _ => false

def PrefixKind.isDrive : PrefixKind → Bool
  | .disk => true
  | _ => false

inductive Component where
  | pfx (kind : PrefixKind) (text : Name)
  | rootDir
  | curDir
  | parentDir
  | normal (segment : Name)
deriving DecidableEq, Repr

def isAsciiAlphabetic (c : Char) : Bool := ('a' ≤ c && c ≤ 'z') || ('A' ≤ c && c ≤ 'Z')

def parseDrive : Name → Bool
  | drive :: ':' :: _ => isAsciiAlphabetic drive
  | _ => false

def parseDriveExact (path : Name) : Bool :=
  match path.drop 2 with
  | [] => parseDrive path
  | c :: _ => Style.windows.isSep c && parseDrive path

-- The component up to the next separator, and what is after that separator.
def parseNextComponent (isSep : Char → Bool) (path : Name) : Name × Name :=
  (path.takeWhile (fun c => !isSep c), (path.dropWhile (fun c => !isSep c)).tail)

def slashed (path : Name) : Name := path.map (fun c => if c = '/' then '\\' else c)

def stripPrefix (pattern path : Name) : Option Name :=
  if (slashed path).take pattern.length = pattern then some (path.drop pattern.length) else none

def verbatimSep (c : Char) : Bool := c == '\\'

def serverShare (isSep : Char → Bool) (path : Name) : Name × Name :=
  let server := parseNextComponent isSep path
  (server.1, (parseNextComponent isSep server.2).1)

def uncLength (names : Name × Name) : Nat := names.1.length + if 0 < names.2.length then 1 + names.2.length else 0

-- The prefix of a Windows path and its length.
def parsePrefix (path : Name) : Option (PrefixKind × Nat) :=
  match stripPrefix ['\\', '\\'] path with
  | some rest =>
      match stripPrefix ['?', '\\'] rest with
      | some verbatim =>
          if (path.take 4).contains '/' then windowsUnc rest
          else
            match stripPrefix ['U', 'N', 'C', '\\'] verbatim with
            | some unc => some (.verbatimUnc, 8 + uncLength (serverShare verbatimSep unc))
            | none =>
                if parseDriveExact verbatim then some (.verbatimDisk, 6)
                else some (.verbatim, 4 + (parseNextComponent verbatimSep verbatim).1.length)
      | none => windowsUnc rest
  | none => if parseDrive path then some (.disk, 2) else none
where
  windowsUnc (rest : Name) : Option (PrefixKind × Nat) :=
    match stripPrefix ['.', '\\'] rest with
    | some device => some (.deviceNs, 4 + (parseNextComponent Style.windows.isSep device).1.length)
    | none =>
        let names := serverShare Style.windows.isSep rest
        if names.1 = [] || names.2 = [] then none else some (.unc, 2 + uncLength names)

def Style.parsePrefix (style : Style) (path : Name) : Option (PrefixKind × Nat) :=
  match style with
  | .unix => none
  | .windows => FileTransfer.parsePrefix path

-- The part of a path that holds its components: after the prefix.
def Style.body (style : Style) (path : Name) : Name := path.drop ((style.parsePrefix path).elim 0 Prod.snd)

def Style.verbatim (style : Style) (path : Name) : Bool := (style.parsePrefix path).any (fun found => found.1.isVerbatim)

def Style.bodySep (style : Style) (path : Name) : Char → Bool := if style.verbatim path then verbatimSep else style.isSep

def Style.hasPhysicalRoot (style : Style) (path : Name) : Bool := (style.body path).head?.any style.isSep

-- The components before the body: a prefix, and a root that is written or implied.
def Style.lead (style : Style) (path : Name) : List Component :=
  let prefixed := (style.parsePrefix path).elim [] (fun found => [Component.pfx found.1 (path.take found.2)])
  let implied := (style.parsePrefix path).any (fun found => !found.1.isDrive && !found.1.isVerbatim)
  prefixed ++ if style.hasPhysicalRoot path || implied then [.rootDir] else []

def Style.bodyText (style : Style) (path : Name) : Name :=
  if style.hasPhysicalRoot path then (style.body path).tail else style.body path

def parseSingleComponent (verbatim : Bool) (segment : Name) : Option Component :=
  if segment = [] then none
  else if segment = ['.'] then (if verbatim then some .curDir else none)
  else if segment = ['.', '.'] then some .parentDir
  else some (.normal segment)

def Style.components (style : Style) (path : Name) : List Component :=
  let texts := segments (style.bodySep path) (style.bodyText path)
  let dot := if style.lead path = [] && texts.head? = some ['.'] then [Component.curDir] else []
  style.lead path ++ dot ++ texts.filterMap (parseSingleComponent (style.verbatim path))

def Style.hasRoot (style : Style) (path : Name) : Bool :=
  style.hasPhysicalRoot path || (style.parsePrefix path).any (fun found => !found.1.isDrive)

def Style.isAbsolute (style : Style) (path : Name) : Bool :=
  style.hasRoot path && (style == .unix || (style.parsePrefix path).isSome)

def Component.text (style : Style) : Component → Name
  | .pfx _ text => text
  | .rootDir => [style.mainSep]
  | .curDir => ['.']
  | .parentDir => ['.', '.']
  | .normal segment => segment

-- A component pushed on a verbatim path, which has its dots taken out.
def pushComponent (parts : List Component) : Component → List Component
  | .rootDir => parts.take 1 ++ [.rootDir]
  | .curDir => parts
  | .parentDir =>
      match parts.getLast? with
      | some (.normal _) => parts.dropLast
      | _ => parts
  | part => parts ++ [part]

def renderPart (style : Style) (text : Name × Bool) (part : Component) : Name × Bool :=
  let sep := if text.2 && part ≠ .rootDir then [style.mainSep] else []
  let next :=
    match part with
    | .rootDir => false
    | .pfx kind text => !kind.isDrive && decide (0 < text.length)
    | _ => true
  (text.1 ++ sep ++ part.text style, next)

def render (style : Style) (parts : List Component) : Name := (parts.foldl (renderPart style) ([], false)).1

def Style.bareDrive (style : Style) (base : Name) : Bool :=
  (style.parsePrefix base).any (fun found => found.1.isDrive && found.2 = base.length)

-- The separator a push puts between the two, none after a separator or a bare drive.
def Style.pushSep (style : Style) (base : Name) : Name :=
  if base.getLast?.any (fun c => !style.isSep c) && !style.bareDrive base then [style.mainSep] else []

def Style.push (style : Style) (base path : Name) : Name :=
  if style.isAbsolute path || (style.parsePrefix path).isSome then path
  else if style.verbatim base && path ≠ [] then
    render style ((style.components path).foldl pushComponent (style.components base))
  else if style.hasRoot path then base.take ((style.parsePrefix base).elim 0 Prod.snd) ++ path
  else base ++ style.pushSep base ++ path

-- What a path names: its components without the dots.
def Style.key (style : Style) (path : Name) : List Component := (style.components path).filter (fun part => part ≠ .curDir)

end GotechDesk.FileTransfer
