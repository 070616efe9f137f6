import DriverKit.BuildConfig

/-!
# Flags of the binding generator

The arguments that make the binding generator read the headers of a configuration: first its own
options, then a separator, then the flags for the reader of headers.
-/

namespace DriverKit.Bindings

/-- Which declarations the generator keeps. -/
structure SymbolFilter where
  /-- Patterns of the files whose declarations are kept. -/
  allowFiles : List String
  /-- Patterns of the names that are left out. -/
  blockItems : List String
  /-- Types that are kept without their contents. -/
  opaqueTypes : List String
deriving Repr

namespace SymbolFilter

def flags (filter : SymbolFilter) : List String :=
  filter.allowFiles.flatMap (fun pattern => ["--allowlist-file", pattern])
    ++ filter.blockItems.flatMap (fun pattern => ["--blocklist-item", pattern])
    ++ filter.opaqueTypes.flatMap fun name => ["--opaque-type", name]

/-- The filter for the headers of a kit: what the kit itself declares, without the deprecated
allocators and what cannot be laid out. -/
def usual : SymbolFilter where
  allowFiles :=
    ["(?i).*[\\\\/]include[\\\\/]wdf[\\\\/].*",
     "(?i).*[\\\\/]include[\\\\/][0-9.]+[\\\\/](km|um|shared|ucrt)[\\\\/].*"]
  blockItems :=
    ["ExAllocatePool", "ExAllocatePoolWithQuota", "ExAllocatePoolWithQuotaTag",
     "ExAllocatePoolWithTag", "ExAllocatePoolWithTagPriority", "_?P?IMAGE_TLS_DIRECTORY.*"]
  opaqueTypes := ["_KGDTENTRY64", "_KIDTENTRY64"]

end SymbolFilter

def generatorOptions : List String :=
  ["--use-core", "--with-derive-default", "--no-layout-tests",
   "--default-enum-style=moduleconsts"]

/-- What makes the reader of headers accept those of a kit. -/
def compatibilityFlags : List String :=
  ["-fms-compatibility", "-fms-extensions", "-fdelayed-template-parsing"]

def defineFlag : Define → String
  | (name, none) => "-D" ++ name
  | (name, some value) => "-D" ++ name ++ "=" ++ value

/-- The definitions with one entry for each name, by the code points of the names. -/
def sortedDefines (defines : List Define) : List Define :=
  (Define.latest defines).mergeSort fun left right => left.1 ≤ right.1

def readerFlags (config : BuildConfig) : List String :=
  config.includeDirs.map (fun path => "-I" ++ path.text)
    ++ (sortedDefines config.defines).map defineFlag
    ++ ["--target=" ++ config.key.arch.triple]
    ++ compatibilityFlags

def flags (config : BuildConfig) (filter : SymbolFilter) : List String :=
  generatorOptions ++ filter.flags ++ ["--"] ++ readerFlags config

end DriverKit.Bindings
