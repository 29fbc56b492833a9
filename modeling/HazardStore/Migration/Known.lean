/-!
The known migrations of the schema, oldest first: the baseline, and the change that stores intensity
measures and fields per rupture. A migration is identified by its version; its script is sent as it
stands here.
-/

namespace HazardStore

structure Migration where
  version : Int64
  description : String
  script : String
deriving DecidableEq

namespace Migration

/-- Ruptures, field containers and the per-site data table that the next migration retires. -/
def baselineVersion : Int64 := 20140101000000

/-- Measures and fields per rupture; ruptures gain site indices; the data table goes. -/
def ruptureFieldsVersion : Int64 := 20140301000000

def baselineScript : String :=
"-- Hazard results schema, prior version.
--
-- Stochastic event set ruptures, ground motion field containers and the
-- per-site ground motion data table that the next migration retires.

CREATE SCHEMA IF NOT EXISTS hzrdr;

-- Restricted principal used by job initialisation. Roles are cluster-wide,
-- so creation must tolerate an existing role.
DO $$
BEGIN
    CREATE ROLE oq_job_init NOLOGIN;
EXCEPTION
    WHEN duplicate_object OR unique_violation THEN NULL;
END
$$;

GRANT USAGE ON SCHEMA hzrdr TO oq_job_init;

CREATE TABLE hzrdr.probabilistic_rupture (
    id                   BIGSERIAL PRIMARY KEY,
    magnitude            DOUBLE PRECISION NOT NULL,
    rake                 DOUBLE PRECISION NOT NULL,
    tectonic_region_type TEXT NOT NULL,
    is_from_fault_source BOOLEAN NOT NULL DEFAULT false,
    created_at           TIMESTAMPTZ NOT NULL DEFAULT NOW()
);

CREATE TABLE hzrdr.ses_rupture (
    id          BIGSERIAL PRIMARY KEY,
    rupture_id  BIGINT NOT NULL
        REFERENCES hzrdr.probabilistic_rupture(id) ON DELETE CASCADE ON UPDATE CASCADE,
    ses_id      INTEGER NOT NULL,
    tag         TEXT NOT NULL UNIQUE,
    seed        INTEGER NOT NULL,
    created_at  TIMESTAMPTZ NOT NULL DEFAULT NOW()
);

CREATE INDEX idx_ses_rupture_rupture_id ON hzrdr.ses_rupture(rupture_id);

CREATE TABLE hzrdr.gmf (
    id           BIGSERIAL PRIMARY KEY,
    display_name TEXT NOT NULL,
    created_at   TIMESTAMPTZ NOT NULL DEFAULT NOW()
);

CREATE TABLE hzrdr.gmf_data (
    id          BIGSERIAL PRIMARY KEY,
    gmf_id      BIGINT NOT NULL
        REFERENCES hzrdr.gmf(id) ON DELETE CASCADE ON UPDATE CASCADE,
    imt         TEXT NOT NULL,
    sa_period   DOUBLE PRECISION,
    sa_damping  DOUBLE PRECISION,
    site_id     BIGINT NOT NULL,
    rupture_ids BIGINT[],
    gmvs        DOUBLE PRECISION[] NOT NULL
);

CREATE INDEX idx_gmf_data_gmf_id ON hzrdr.gmf_data(gmf_id);

GRANT SELECT, INSERT ON hzrdr.probabilistic_rupture, hzrdr.ses_rupture, hzrdr.gmf
    TO oq_job_init;
GRANT USAGE, SELECT ON SEQUENCE
    hzrdr.probabilistic_rupture_id_seq, hzrdr.ses_rupture_id_seq, hzrdr.gmf_id_seq
    TO oq_job_init;
"

def ruptureFieldsScript : String :=
"-- Canonical intensity measure types, ground motion fields stored per
-- rupture, rupture site indices, and removal of hzrdr.gmf_data.

CREATE TABLE hzrdr.imt (
    id         BIGSERIAL PRIMARY KEY,
    -- full rendering, e.g. SA(0.1)
    imt_str    TEXT NOT NULL UNIQUE,
    -- short code, e.g. PGA or SA
    im_type    TEXT NOT NULL,
    sa_period  DOUBLE PRECISION CONSTRAINT imt_sa_period CHECK (
        (im_type = 'SA' AND sa_period IS NOT NULL)
        OR (im_type <> 'SA' AND sa_period IS NULL)),
    sa_damping DOUBLE PRECISION CONSTRAINT imt_sa_damping CHECK (
        (im_type = 'SA' AND sa_damping IS NOT NULL)
        OR (im_type <> 'SA' AND sa_damping IS NULL))
    -- No check ties imt_str to im_type/sa_period: the text rendering of a
    -- period differs between engines (1.0 vs 1), and such a check would
    -- reject SA(1.0).
);

-- NULL period/damping must collide too, hence the expression index.
CREATE UNIQUE INDEX uq_imt_type_period_damping ON hzrdr.imt (
    im_type, COALESCE(sa_period, -1), COALESCE(sa_damping, -1));

GRANT SELECT, INSERT ON hzrdr.imt TO oq_job_init;
GRANT USAGE, SELECT ON SEQUENCE hzrdr.imt_id_seq TO oq_job_init;

INSERT INTO hzrdr.imt (imt_str, im_type, sa_period, sa_damping) VALUES
    ('PGA', 'PGA', NULL, NULL),
    ('PGV', 'PGV', NULL, NULL),
    ('PGD', 'PGD', NULL, NULL),
    ('IA', 'IA', NULL, NULL),
    ('RSD', 'RSD', NULL, NULL),
    ('MMI', 'MMI', NULL, NULL),
    ('SA(0.1)', 'SA', 0.1, 5.0)
ON CONFLICT DO NOTHING;

CREATE TABLE hzrdr.gmf_rupture (
    id                  BIGSERIAL PRIMARY KEY,
    rupture_id          BIGINT NOT NULL,
    gmf_id              BIGINT NOT NULL,
    imt_id              BIGINT NOT NULL,
    -- one value per affected site, ordered as the rupture's site_indices
    ground_motion_field DOUBLE PRECISION[] NOT NULL
);

GRANT SELECT, INSERT ON hzrdr.gmf_rupture TO oq_job_init;
GRANT USAGE, SELECT ON SEQUENCE hzrdr.gmf_rupture_id_seq TO oq_job_init;

ALTER TABLE hzrdr.gmf_rupture
    ADD CONSTRAINT hzrdr_gmf_rupture_rupture_fk
    FOREIGN KEY (rupture_id) REFERENCES hzrdr.ses_rupture(id)
    ON DELETE CASCADE ON UPDATE CASCADE;

ALTER TABLE hzrdr.gmf_rupture
    ADD CONSTRAINT hzrdr_gmf_rupture_imt_fk
    FOREIGN KEY (imt_id) REFERENCES hzrdr.imt(id)
    ON DELETE CASCADE ON UPDATE CASCADE;

ALTER TABLE hzrdr.gmf_rupture
    ADD CONSTRAINT hzrdr_gmf_rupture_gmf_fk
    FOREIGN KEY (gmf_id) REFERENCES hzrdr.gmf(id)
    ON DELETE CASCADE ON UPDATE CASCADE;

CREATE INDEX idx_gmf_rupture_rupture_id ON hzrdr.gmf_rupture(rupture_id);
CREATE INDEX idx_gmf_rupture_gmf_id ON hzrdr.gmf_rupture(gmf_id);
CREATE INDEX idx_gmf_rupture_imt_id ON hzrdr.gmf_rupture(imt_id);

ALTER TABLE hzrdr.probabilistic_rupture ADD COLUMN site_indices INTEGER[];

DROP TABLE hzrdr.gmf_data;
"

def known : List Migration :=
  [{ version := baselineVersion
     description := "hzrdr baseline"
     script := baselineScript },
   { version := ruptureFieldsVersion
     description := "imt gmf rupture"
     script := ruptureFieldsScript }]

end Migration

end HazardStore
