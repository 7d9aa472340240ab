import RdfStore.Term.Basic

/-!
# Vocabulary

The IRIs with a fixed meaning: datatypes, and the terms of RDF and RDF Schema that rules speak
of. Each is the normal form of its own text.
-/

namespace RdfStore.Vocabulary

def xsd (name : String) : Iri := ⟨"http://www.w3.org/2001/XMLSchema#" ++ name⟩

def xsdString : Iri := xsd "string"

def xsdBoolean : Iri := xsd "boolean"

def xsdInteger : Iri := xsd "integer"

def xsdDouble : Iri := xsd "double"

def xsdDateTime : Iri := xsd "dateTime"

/-- The datatypes whose values are whole numbers here. -/
def integerTypes : List Iri := [xsdInteger, xsd "int", xsd "long"]

/-- The datatypes whose values are double-precision numbers here. -/
def doubleTypes : List Iri := [xsdDouble, xsd "float", xsd "decimal"]

def rdfType : Iri := ⟨"http://www.w3.org/1999/02/22-rdf-syntax-ns#type"⟩

def rdfLangString : Iri := ⟨"http://www.w3.org/1999/02/22-rdf-syntax-ns#langString"⟩

def rdfs (name : String) : Iri := ⟨"http://www.w3.org/2000/01/rdf-schema#" ++ name⟩

def subClassOf : Iri := rdfs "subClassOf"

def subPropertyOf : Iri := rdfs "subPropertyOf"

def domain : Iri := rdfs "domain"

def range : Iri := rdfs "range"

end RdfStore.Vocabulary
